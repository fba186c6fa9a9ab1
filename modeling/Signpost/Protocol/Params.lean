import Signpost.Protocol.Ability
import Signpost.Protocol.Part
import Signpost.Session.Message

/-!
# The parameters of messages that are handled

What a session handles are messages of its own. Here they are read from the parameters that
come with the name of a method. Parameters with any fault are not understood.
-/

namespace Signpost.Params

open Shape Signpost.Part

/-- How much a client wants to hear about what happens. -/
def trace : Reader String :=
  word ["off", "messages", "verbose"]

/-- The name and version of a client. -/
def client : Reader Fields :=
  record "ClientInfo" [need "name" string, may "version" string]

/-- An introduction. -/
def introduction : Reader Introduction := fun j => do
  let fields ← mixture "InitializeParams"
    [may "processId" natural, may "rootPath" string, may "rootUri" uri,
      may "initializationOptions" any, need "capabilities" Ability.links, may "trace" trace,
      may "workspaceFolders" (list folder), may "clientInfo" client, may "locale" string]
    [work] j
  let folders ← fields.optional "workspaceFolders" (list folder)
  let root ← fields.optional "rootUri" uri
  let options ← fields.optional "initializationOptions" any
  let links ← fields.required "capabilities" Ability.links
  return { folder := folders.bind List.head?, root, options, links }

/-- The client is ready. -/
def ready : Reader Message := fun j => do
  let _ ← record "InitializedParams" [] j
  return .ready

/-- A document as it is when it is opened. -/
def openedItem : Reader Message := fun j => do
  let fields ← record "TextDocumentItem"
    [need "uri" uri, need "languageId" string, need "version" integer, need "text" text] j
  return .opened (← fields.required "uri" uri) (← fields.required "languageId" string)
    (← fields.required "version" integer) (← fields.required "text" text)

/-- A document is opened. -/
def opened : Reader Message := fun j => do
  let fields ← record "DidOpenTextDocumentParams" [need "textDocument" openedItem] j
  fields.required "textDocument" openedItem

/-- The name and version of a document. -/
def versioned : Reader (Text × Int) := fun j => do
  let fields ← record "VersionedTextDocumentIdentifier"
    [need "uri" uri, need "version" integer] j
  return (← fields.required "uri" uri, ← fields.required "version" integer)

/-- A document is changed. -/
def changed : Reader Message := fun j => do
  let fields ← record "DidChangeTextDocumentParams"
    [need "textDocument" versioned, need "contentChanges" (list change)] j
  let (uri, version) ← fields.required "textDocument" versioned
  return .changed uri version (← fields.required "contentChanges" (list change))

/-- A document is closed. -/
def closed : Reader Message := fun j => do
  let fields ← record "DidCloseTextDocumentParams" [need "textDocument" identifier] j
  return .closed (← fields.required "textDocument" identifier)

/-- Settings have changed. -/
def configured : Reader Message := fun j => do
  let fields ← record "DidChangeConfigurationParams" [need "settings" any] j
  return .configured (← fields.required "settings" any)

/-- The client asks for a definition. -/
def definition : Reader Message := fun j => do
  let fields ← mixture "GotoDefinitionParams" [] [place, work, partly] j
  return .definition (← fields.required "textDocument" identifier)
    (← fields.required "position" position)

end Signpost.Params
