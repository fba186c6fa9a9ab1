import Signpost.Document.Store
import Signpost.Language
import Signpost.Session.Message
import Signpost.Settings.Load
import Signpost.Uri

/-!
# Sessions

A session is what is kept between two messages of a client: the open documents, the root
of the project, the settings, and whether the client understands links. Handling a message
is a function of the session, the message, and the world as it is at that moment – its
environment and its disk.

Three things hold by construction. Only messages about documents change the documents.
Only an introduction and a change of settings change the settings, and each time they are
loaded afresh, so that earlier ones leave no trace. The root and the understanding of links
are those of the introduction.
-/

namespace Signpost

/-- What is kept between two messages. -/
structure Session where
  /-- The open documents. -/
  documents : Store := .empty
  /-- The root of the project. -/
  root : Option Path := none
  /-- The settings. -/
  settings : Settings := .default
  /-- Whether the client understands links, once it has said so. -/
  links : Option Bool := none

/-- What comes of a message. -/
structure Reaction where
  /-- The session afterwards. -/
  session : Session
  /-- What the session says. -/
  remarks : List Remark := []
  /-- The answer to a question for a definition. -/
  destination : Option Destination := none

namespace Session

/-- The session before any message. -/
def fresh : Session := {}

/-! ### Settings -/

/-- The notice about an event of loading. -/
def noticeOf : Event → Remark
  | .info message => .notice .info message
  | .warning message => .notice .warning message

/-- The path that a URI names. -/
def pathOfUri? (uri : Text) : Option Path :=
  match Url.parse uri with
  | .ok url => url.toPath?
  | .error _ => none

/-- The root of the project that a client introduces: its first folder, the directory that
it works in, or the working directory of this program, if there still is one. -/
def rootOf (env : Environment) (said : Introduction) : Option Path :=
  ((said.folder.bind pathOfUri?).or (said.root.bind pathOfUri?)).or env.workingDirectory

/-- Loads the settings of the project afresh. -/
def reload (s : Session) (env : Environment) (disk : Disk) (payload : Option Payload) :
    Reaction :=
  let loaded := Settings.load env disk s.root payload
  { session := { s with settings := loaded.settings }, remarks := loaded.events.map noticeOf }

/-- A client introduces itself. What it says about links counts the first time only. -/
def introduce (s : Session) (env : Environment) (disk : Disk) (said : Introduction) : Reaction :=
  let s := { s with root := rootOf env said, links := s.links.or (some said.links) }
  s.reload env disk (said.options.map (⟨.start, ·⟩))

/-! ### Documents -/

/-- The part of the log that documents have. -/
def documentsOrigin : String := "dank_ls::documents"

/-- The part of the log that messages about documents have. -/
def messagesOrigin : String := "dank_ls::lsp::lsp_impl"

/-- The part of the log that questions for definitions have. -/
def questionsOrigin : String := "dank_ls::lsp::lsp_impl::text_document::definition"

/-- The part of the log that definitions have. -/
def definitionOrigin : String := "dank_ls::definition"

/-- The aside on a URI that is no URL. -/
def badUri (origin message : String) (uri : Text) : Remark :=
  .aside ⟨.warn, origin, "Invalid URI in " ++ message ++ ": " ++ String.ofList uri⟩

/-- A document is opened. -/
def openDocument (s : Session) (uri : Text) (document : Document) : Reaction :=
  match Url.parse uri with
  | .error _ => { session := s, remarks := [badUri messagesOrigin "didOpen" uri] }
  | .ok url =>
    { session := { s with documents := s.documents.insert url document },
      remarks := [.aside ⟨.debug, documentsOrigin, "Opened " ++ url.display⟩] }

/-- A document is closed. -/
def closeDocument (s : Session) (uri : Text) : Reaction :=
  match Url.parse uri with
  | .error _ => { session := s, remarks := [badUri messagesOrigin "didClose" uri] }
  | .ok url =>
    { session := { s with documents := s.documents.erase url },
      remarks := [.aside ⟨.debug, documentsOrigin, "Closed " ++ url.display⟩] }

/-- A document is changed. -/
def changeDocument (s : Session) (uri : Text) (version : Int) (changes : List Change) :
    Reaction :=
  match Url.parse uri with
  | .error _ => { session := s, remarks := [badUri messagesOrigin "didChange" uri] }
  | .ok url =>
    match s.documents.text? url with
    | none =>
      { session := s,
        remarks := [.notice .warning ("didChange for unopened document " ++ url.display)] }
    | some text =>
      match s.documents.update url (Change.applyAll changes text) (some version) with
      | .ok documents => { session := { s with documents } }
      | .error e => { session := s, remarks := [.notice .warning e.message] }

/-! ### Definitions -/

/-- A version as a message shows it. -/
def describeVersion : Option Int → String
  | none => "None"
  | some n => "Some(" ++ toString n ++ ")"

/-- The notice that a definition is looked for. -/
def askedNotice (snapshot : Snapshot) (position : Position) : Remark :=
  .notice .detail
    ("goto_definition called for " ++ snapshot.url.display ++ " (version " ++
      describeVersion snapshot.document.version ++ ") at line " ++ toString position.line ++
      " col " ++ toString position.character)

/-- The answer that names a reference. There is none when the URL of the target is no
URI, for then it cannot be sent. -/
def destinationOf? (s : Session) (reference : Reference) : Option Destination :=
  let uri := reference.target.url.href
  if Uri.isValid uri then
    some (if s.links.getD false then .link reference.origin uri else .place uri)
  else
    none

/-- The attempt to resolve what stands at a position of an open document. -/
def attempt (s : Session) (disk : Disk) (grammar : Grammar) (snapshot : Snapshot)
    (position : Position) : Attempt :=
  resolve grammar snapshot.source position s.settings.backwardLines (s.documents.probe disk)

/-- The path that the disk may be asked about when a client asks for a definition. It does
not depend on the disk. -/
def asked? (s : Session) (uri : Text) (position : Position) : Option Path :=
  match Url.parse uri with
  | .error _ => none
  | .ok url => do
    let snapshot ← s.documents.snapshot? url
    let grammar ← Grammar.detect? s.settings snapshot.document.language url
    (s.attempt (fun _ => .error .notFound) grammar snapshot position).asked?

/-- Looks for a definition in an open document. -/
def define (s : Session) (disk : Disk) (snapshot : Snapshot) (position : Position) : Reaction :=
  let asked := askedNotice snapshot position
  match Grammar.detect? s.settings snapshot.document.language snapshot.url with
  | none =>
    { session := s,
      remarks := [asked, .aside ⟨.debug, definitionOrigin,
        "No reference grammar for " ++ snapshot.url.display⟩] }
  | some grammar =>
    let attempt := s.attempt disk grammar snapshot position
    let remarks := asked :: attempt.records.map .aside
    match attempt.reference? with
    | none => { session := s, remarks }
    | some reference =>
      { session := s,
        remarks := remarks ++ [.aside ⟨.debug, definitionOrigin, "Resolved " ++
          snapshot.url.display ++ " to " ++ reference.target.path.display⟩],
        destination := s.destinationOf? reference }

/-- A client asks for a definition. -/
def answer (s : Session) (disk : Disk) (uri : Text) (position : Position) : Reaction :=
  match Url.parse uri with
  | .error _ => { session := s, remarks := [badUri questionsOrigin "gotoDefinition" uri] }
  | .ok url =>
    match s.documents.snapshot? url with
    | none =>
      { session := s, remarks := [.notice .info ("No document found for " ++ url.display)] }
    | some snapshot => s.define disk snapshot position

/-! ### Messages -/

/-- Handles a message. -/
def handle (s : Session) (env : Environment) (disk : Disk) : Message → Reaction
  | .introduction said => s.introduce env disk said
  | .ready => { session := s, remarks := [.notice .info "server initialized!"] }
  | .opened uri language version text =>
    s.openDocument uri (.ofText text (some language) (some version))
  | .changed uri version changes => s.changeDocument uri version changes
  | .closed uri => s.closeDocument uri
  | .configured value => s.reload env disk (some ⟨.change, value⟩)
  | .definition uri position => s.answer disk uri position

end Session

end Signpost
