import Signpost.Protocol.Part

/-!
# The parameters of requests that are not offered

The protocol knows many more requests than this server has an answer to. A request that is
known and not offered is refused only after its parameters have been looked at, so for each
of them the shape of its parameters is written down here.
-/

namespace Signpost.Request

open Shape Signpost.Part

/-- A field that names a document. -/
def document : Field := need "textDocument" identifier

/-- A field that gives a range of a document. -/
def part : Field := need "range" range

/-- The marks under which work and parts of a result are reported. -/
def marks : List (List Field) := [work, partly]

/-- A question about a place in a document. -/
def atPlace (title : String) (own : List Field := []) (taken : List (List Field) := marks) :
    Reader Fields :=
  mixture title own (place :: taken)

/-- A question about a whole document. -/
def onDocument (title : String) (own : List Field := []) : Reader Fields :=
  mixture title (document :: own) marks

/-- A question about a part of a document. -/
def onPart (title : String) (own : List Field := []) (taken : List (List Field) := marks) :
    Reader Fields :=
  mixture title (document :: part :: own) taken

/-- A question about a node of a hierarchy. -/
def onItem (title : String) (item : Reader Fields) : Reader Fields :=
  mixture title [need "item" item] marks

/-- A node of the hierarchy of calls. -/
def callItem : Reader Fields :=
  hierarchyItem "CallHierarchyItem" (only (list integer))

/-- A node of the hierarchy of types. -/
def typeItem : Reader Fields :=
  hierarchyItem "TypeHierarchyItem" (only integer)

/-- How a document is to be laid out. Any other option is a truth value, a number or a
string. -/
def layout : Reader Unit := fun j => do
  let known :=
    [need "tabSize" natural, need "insertSpaces" truth, may "trimTrailingWhitespace" truth,
      may "insertFinalNewline" truth, may "trimFinalNewlines" truth]
  let _ ← mixture "FormattingOptions" known [] j
  match j with
  | .obj members =>
    let others := members.filter fun (name, _) => !(known.map Field.name).contains name
    dictionary (choice "FormattingProperty" [only truth, only integer, only string]) (.obj others)
  | _ => return ()

/-- What led to a question for proposals. -/
def completionContext : Reader Fields :=
  record "CompletionContext" [need "triggerKind" integer, may "triggerCharacter" string]

/-- What led to a question for a signature. -/
def signatureContext : Reader Fields :=
  record "SignatureHelpContext"
    [need "triggerKind" integer, may "triggerCharacter" string, need "isRetrigger" truth,
      may "activeSignatureHelp" (record "SignatureHelp"
        [need "signatures" (list signature), may "activeSignature" natural,
          may "activeParameter" natural])]

/-- What led to a question for something to do. -/
def actionContext : Reader Fields :=
  record "CodeActionContext"
    [need "diagnostics" (list diagnostic), may "only" (list string),
      may "triggerKind" integer]

/-- A colour. -/
def color : Reader Fields :=
  record "Color" [need "red" real, need "green" real, need "blue" real, need "alpha" real]

/-- Files that are about to be created. -/
def createdFiles : Reader Fields :=
  record "CreateFilesParams" [need "files" (list (record "FileCreate" [need "uri" string]))]

/-- Files that are about to be renamed. -/
def renamedFiles : Reader Fields :=
  record "RenameFilesParams" [need "files" (list (record "FileRename"
    [need "oldUri" string, need "newUri" string]))]

/-- Files that are about to be deleted. -/
def deletedFiles : Reader Fields :=
  record "DeleteFilesParams" [need "files" (list (record "FileDelete" [need "uri" string]))]

/-- The requests that are known and not offered, with the shapes of their parameters. -/
def known : List (String × Reader Fields) :=
  [("textDocument/willSaveWaitUntil",
      record "WillSaveTextDocumentParams" [document, need "reason" integer]),
    ("textDocument/declaration", atPlace "GotoDefinitionParams"),
    ("textDocument/typeDefinition", atPlace "GotoDefinitionParams"),
    ("textDocument/implementation", atPlace "GotoDefinitionParams"),
    ("textDocument/references", atPlace "ReferenceParams"
      [need "context" (record "ReferenceContext" [need "includeDeclaration" truth])]),
    ("textDocument/prepareCallHierarchy", atPlace "CallHierarchyPrepareParams" [] [work]),
    ("callHierarchy/incomingCalls", onItem "CallHierarchyIncomingCallsParams" callItem),
    ("callHierarchy/outgoingCalls", onItem "CallHierarchyOutgoingCallsParams" callItem),
    ("textDocument/prepareTypeHierarchy", atPlace "TypeHierarchyPrepareParams" [] [work]),
    ("typeHierarchy/supertypes", onItem "TypeHierarchySupertypesParams" typeItem),
    ("typeHierarchy/subtypes", onItem "TypeHierarchySubtypesParams" typeItem),
    ("textDocument/documentHighlight", atPlace "DocumentHighlightParams"),
    ("textDocument/documentLink", onDocument "DocumentLinkParams"),
    ("documentLink/resolve", documentLink),
    ("textDocument/hover", atPlace "HoverParams" [] [work]),
    ("textDocument/codeLens", onDocument "CodeLensParams"),
    ("codeLens/resolve", codeLens),
    ("textDocument/foldingRange", onDocument "FoldingRangeParams"),
    ("textDocument/selectionRange",
      onDocument "SelectionRangeParams" [need "positions" (list position)]),
    ("textDocument/documentSymbol", onDocument "DocumentSymbolParams"),
    ("textDocument/semanticTokens/full", onDocument "SemanticTokensParams"),
    ("textDocument/semanticTokens/full/delta",
      onDocument "SemanticTokensDeltaParams" [need "previousResultId" string]),
    ("textDocument/semanticTokens/range", onPart "SemanticTokensRangeParams"),
    ("textDocument/inlineValue", onPart "InlineValueParams"
      [need "context" (record "InlineValueContext"
        [need "frameId" integer, need "stoppedLocation" range])] [work]),
    ("textDocument/inlayHint", onPart "InlayHintParams" [] [work]),
    ("inlayHint/resolve", inlayHint),
    ("textDocument/moniker", atPlace "MonikerParams"),
    ("textDocument/completion",
      atPlace "CompletionParams" [may "context" completionContext]),
    ("completionItem/resolve", completionItem),
    ("textDocument/diagnostic", onDocument "DocumentDiagnosticParams"
      [may "identifier" string, may "previousResultId" string]),
    ("workspace/diagnostic", mixture "WorkspaceDiagnosticParams"
      [may "identifier" string, need "previousResultIds" (list (record "PreviousResultId"
        [need "uri" uri, need "value" string]))] marks),
    ("textDocument/signatureHelp",
      atPlace "SignatureHelpParams" [may "context" signatureContext] [work]),
    ("textDocument/codeAction", onPart "CodeActionParams" [need "context" actionContext]),
    ("codeAction/resolve", codeAction),
    ("textDocument/documentColor", onDocument "DocumentColorParams"),
    ("textDocument/colorPresentation", mixture "ColorPresentationParams"
      [document, need "color" color, part] marks),
    ("textDocument/formatting", mixture "DocumentFormattingParams"
      [document, need "options" layout] [work]),
    ("textDocument/rangeFormatting", onPart "DocumentRangeFormattingParams"
      [need "options" layout] [work]),
    ("textDocument/onTypeFormatting", atPlace "DocumentOnTypeFormattingParams"
      [need "ch" string, need "options" layout] []),
    ("textDocument/rename", atPlace "RenameParams" [need "newName" string] [work]),
    ("textDocument/prepareRename", record "TextDocumentPositionParams"
      [document, need "position" position]),
    ("textDocument/linkedEditingRange", atPlace "LinkedEditingRangeParams" [] [work]),
    ("workspace/symbol", mixture "WorkspaceSymbolParams" [need "query" string] marks),
    ("workspaceSymbol/resolve", workspaceSymbol),
    ("workspace/willCreateFiles", createdFiles),
    ("workspace/willRenameFiles", renamedFiles),
    ("workspace/willDeleteFiles", deletedFiles),
    ("workspace/executeCommand", mixture "ExecuteCommandParams"
      [need "command" string, assume "arguments" (list any)] [work])]

end Signpost.Request
