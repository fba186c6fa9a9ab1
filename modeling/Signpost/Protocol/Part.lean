import Signpost.Protocol.Shape
import Signpost.Text.Edit

/-!
# Parts of messages

The parameters of different messages have parts in common: positions and ranges, the names
of documents, edits, diagnostics and the like. Those that this server makes use of are read
into values of their own; of the others only the shape is checked.
-/

namespace Signpost.Part

open Shape

/-! ### Places in documents -/

/-- The fields of a position. -/
def positionFields : List Field :=
  [need "line" natural, need "character" natural]

/-- A position. -/
def position : Reader Position := fun j => do
  let fields ← record "Position" positionFields j
  return ⟨← fields.required "line" natural, ← fields.required "character" natural⟩

/-- A range. -/
def range : Reader Range := fun j => do
  let fields ← record "Range" [need "start" position, need "end" position] j
  return ⟨← fields.required "start" position, ← fields.required "end" position⟩

/-- The name of a document. -/
def identifier : Reader Text := fun j => do
  let fields ← record "TextDocumentIdentifier" [need "uri" uri] j
  fields.required "uri" uri

/-- A range in a document. -/
def location : Reader Fields :=
  record "Location" [need "uri" uri, need "range" range]

/-! ### Fields that are taken by other records -/

/-- A mark by which progress is reported, or the code of a diagnostic. -/
def numberOrString : Reader Unit :=
  choice "NumberOrString" [only integer, only string]

/-- A place in a document: its name and a position. -/
def place : List Field :=
  [need "textDocument" (innerRecord "TextDocumentIdentifier" [need "uri" uri]),
    need "position" (innerRecord "Position" positionFields)]

/-- The mark under which work is reported. -/
def work : List Field :=
  [may "workDoneToken" numberOrString]

/-- The mark under which parts of a result are reported. -/
def partly : List Field :=
  [may "partialResultToken" numberOrString]

/-! ### Edits and commands -/

/-- A change of a document. -/
def change : Reader Change := fun j => do
  let fields ← record "TextDocumentContentChangeEvent"
    [may "range" range, may "rangeLength" natural, need "text" text] j
  return ⟨← fields.optional "range" range, ← fields.required "text" text⟩

/-- A replacement of a range. -/
def edit : Reader Fields :=
  record "TextEdit" [need "range" range, need "newText" string]

/-- A text with the language of its marks. -/
def markup : Reader Fields :=
  record "MarkupContent" [need "kind" (word ["plaintext", "markdown"]), need "value" string]

/-- A text that may have marks, under the title that messages give to it. -/
def documentation (title : String) : Reader Unit :=
  choice title [only string, only markup]

/-- A command of the client. -/
def command : Reader Fields :=
  record "Command" [need "title" string, need "command" string, may "arguments" (list any)]

/-- What may happen to a file when there is another one. -/
def fileOptions (title : String) : Reader Fields :=
  record title [may "overwrite" truth, may "ignoreIfExists" truth]

/-- An operation on files. -/
def fileOperation : Reader Unit := fun j => do
  let fields ← mixture "ResourceOp" [need "kind" (word ["create", "rename", "delete"])] [] j
  match ← fields.required "kind" string with
  | "create" => only (mixture "CreateFile" [need "uri" uri,
      may "options" (fileOptions "CreateFileOptions"), may "annotationId" string] []) j
  | "rename" => only (mixture "RenameFile" [need "oldUri" uri, need "newUri" uri,
      may "options" (fileOptions "RenameFileOptions"), may "annotationId" string] []) j
  | _ => only (mixture "DeleteFile" [need "uri" uri, may "options" (record "DeleteFileOptions"
      [may "recursive" truth, may "ignoreIfNotExists" truth, may "annotationId" string])] []) j

/-- Edits of one version of a document. -/
def documentEdit : Reader Fields :=
  record "TextDocumentEdit"
    [need "textDocument" (record "OptionalVersionedTextDocumentIdentifier"
      [need "uri" uri, may "version" integer]),
      need "edits" (list (choice "OneOf" [only edit, only (mixture "AnnotatedTextEdit"
        [need "annotationId" string] [[need "range" range, need "newText" string]])]))]

/-- Edits under the names of documents. -/
def editsByName : Reader Unit
  | .obj members =>
    (members.mergeSort fun a b => a.1 ≤ b.1).forM fun (name, edits) => do
      let _ ← uri (.str name)
      only (list edit) edits
  | j => .error (.kind j "map")

/-- Edits of many documents. -/
def workspaceEdit : Reader Fields :=
  record "WorkspaceEdit"
    [mayOmit "changes" editsByName,
      may "documentChanges" (choice "DocumentChanges" [only (list documentEdit),
        only (list (choice "DocumentChangeOperation" [fileOperation, only documentEdit]))]),
      may "changeAnnotations" (dictionary (record "ChangeAnnotation"
        [need "label" string, may "needsConfirmation" truth, may "description" string]))]

/-! ### Diagnostics and results -/

/-- A diagnostic. -/
def diagnostic : Reader Fields :=
  record "Diagnostic"
    [need "range" range, may "severity" integer, may "code" numberOrString,
      may "codeDescription" (record "CodeDescription" [need "href" uri]), may "source" string,
      need "message" string,
      may "relatedInformation" (list (record "DiagnosticRelatedInformation"
        [need "location" location, need "message" string])),
      may "tags" (list integer), may "data" any]

/-- A node of a hierarchy, with the shape of its marks. -/
def hierarchyItem (title : String) (tags : Reader Unit) : Reader Fields :=
  record title
    [need "name" string, need "kind" integer, may "tags" tags, may "detail" string,
      need "uri" uri, need "range" range, need "selectionRange" range, may "data" any]

/-- A link in a document. -/
def documentLink : Reader Fields :=
  record "DocumentLink"
    [need "range" range, may "target" uri, may "tooltip" string, may "data" any]

/-- A command that stands at a range. -/
def codeLens : Reader Fields :=
  record "CodeLens" [need "range" range, may "command" command, may "data" any]

/-- A hint between the characters of a document. -/
def inlayHint : Reader Fields :=
  record "InlayHint"
    [need "position" position,
      need "label" (choice "InlayHintLabel" [only string, only (list (record "InlayHintLabelPart"
        [need "value" string, may "tooltip" (documentation "InlayHintLabelPartTooltip"),
          may "location" location, may "command" command]))]),
      may "kind" integer, may "textEdits" (list edit),
      may "tooltip" (documentation "InlayHintTooltip"), may "paddingLeft" truth,
      may "paddingRight" truth, may "data" any]

/-- A proposal to complete what is being written. -/
def completionItem : Reader Fields :=
  record "CompletionItem"
    [need "label" string,
      may "labelDetails" (record "CompletionItemLabelDetails"
        [may "detail" string, may "description" string]),
      may "kind" integer, may "detail" string,
      may "documentation" (documentation "Documentation"), may "deprecated" truth,
      may "preselect" truth, may "sortText" string, may "filterText" string,
      may "insertText" string, may "insertTextFormat" integer, may "insertTextMode" integer,
      may "textEdit" (choice "CompletionTextEdit" [only edit, only (record "InsertReplaceEdit"
        [need "newText" string, need "insert" range, need "replace" range])]),
      may "additionalTextEdits" (list edit), may "command" command,
      may "commitCharacters" (list string), may "data" any, may "tags" (list integer)]

/-- A signature with its parameters. -/
def signature : Reader Fields :=
  record "SignatureInformation"
    [need "label" string, may "documentation" (documentation "Documentation"),
      may "parameters" (list (record "ParameterInformation"
        [need "label" (choice "ParameterLabel" [only string, pair]),
          may "documentation" (documentation "Documentation")])),
      may "activeParameter" natural]
where
  /-- Two offsets. -/
  pair : Reader Unit := fun j => do
    let offsets ← list natural j
    if offsets.length = 2 then return () else throw (.length offsets.length "an array of length 2")

/-- Something that can be done about a place in a document. -/
def codeAction : Reader Fields :=
  record "CodeAction"
    [need "title" string, may "kind" string, may "diagnostics" (list diagnostic),
      may "edit" workspaceEdit, may "command" command, may "isPreferred" truth,
      may "disabled" (record "CodeActionDisabled" [need "reason" string]), may "data" any]

/-- A symbol of the workspace. -/
def workspaceSymbol : Reader Fields :=
  record "WorkspaceSymbol"
    [need "name" string, need "kind" integer, may "tags" (list integer),
      may "containerName" string,
      need "location" (choice "OneOf"
        [only location, only (record "WorkspaceLocation" [need "uri" uri])]),
      may "data" any]

/-- A folder, of which the URI counts. -/
def folder : Reader Text := fun j => do
  let fields ← record "WorkspaceFolder" [need "uri" uri, need "name" string] j
  fields.required "uri" uri

end Signpost.Part
