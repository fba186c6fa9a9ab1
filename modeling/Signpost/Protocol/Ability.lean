import Signpost.Protocol.Shape

/-!
# What a client is able to do

A client that introduces itself says at length what it is able to do. Of all that only one
thing counts here: whether it understands a definition that comes with the range it
explains. But an introduction is understood as a whole or not at all, so the shape of
everything else is checked as well.
-/

namespace Signpost.Ability

open Shape

/-! ### Groups of fields that occur more than once -/

/-- Something that can be switched on while the server runs. -/
def switch : Field := may "dynamicRegistration" truth

/-- A record of truth values, each of which may be missing. -/
def flags (title : String) (names : List String) : Reader Fields :=
  record title (names.map fun name => may name truth)

/-- An ability about which nothing more is said than whether it can be switched on. -/
def plain : Reader Fields :=
  flags "DynamicRegistrationClientCapabilities" ["dynamicRegistration"]

/-- An ability to show something anew. -/
def refresh (title : String) : Reader Fields :=
  flags title ["refreshSupport"]

/-- A definition may come with the range that it explains. -/
def goto : Reader Fields :=
  flags "GotoCapability" ["dynamicRegistration", "linkSupport"]

/-- The names of what can be filled in later. -/
def later (title : String) : Reader Fields :=
  record title [need "properties" (list string)]

/-- Numbers that the client knows. -/
def numbers (title : String) : Reader Fields :=
  record title [may "valueSet" (list integer)]

/-- Marks that the client knows. It may also say only whether it knows any. -/
def tags : Reader Unit
  | .bool _ => .ok ()
  | j => only (record "TagSupport" [need "valueSet" (list integer)]) j

/-- The kinds of text that the client can show, in the order of preference. -/
def formats : Reader (List String) :=
  list (word ["plaintext", "markdown"])

/-! ### The workspace -/

/-- What a client is able to do with many documents at once. -/
def workspaceEdit : Reader Fields :=
  record "WorkspaceEditClientCapabilities"
    [may "documentChanges" truth,
      may "resourceOperations" (list (word ["create", "rename", "delete"])),
      may "failureHandling" (word ["abort", "transactional", "textOnlyTransactional", "undo"]),
      may "normalizesLineEndings" truth,
      may "changeAnnotationSupport"
        (flags "ChangeAnnotationWorkspaceEditClientCapabilities" ["groupsOnLabel"])]

/-- What a client is able to do with the symbols of the workspace. -/
def workspaceSymbol : Reader Fields :=
  record "WorkspaceSymbolClientCapabilities"
    [switch, may "symbolKind" (numbers "SymbolKindCapability"), mayOmit "tagSupport" tags,
      may "resolveSupport" (later "WorkspaceSymbolResolveSupportCapability")]

/-- What a client is able to do with the workspace. -/
def workspace : Reader Fields :=
  record "WorkspaceClientCapabilities"
    [may "applyEdit" truth, may "workspaceEdit" workspaceEdit,
      may "didChangeConfiguration" plain,
      may "didChangeWatchedFiles" (flags "DidChangeWatchedFilesClientCapabilities"
        ["dynamicRegistration", "relativePatternSupport"]),
      may "symbol" workspaceSymbol, may "executeCommand" plain, may "workspaceFolders" truth,
      may "configuration" truth,
      may "semanticTokens" (refresh "SemanticTokensWorkspaceClientCapabilities"),
      may "codeLens" (refresh "CodeLensWorkspaceClientCapabilities"),
      may "fileOperations" (flags "WorkspaceFileOperationsClientCapabilities"
        ["dynamicRegistration", "didCreate", "willCreate", "didRename", "willRename",
          "didDelete", "willDelete"]),
      may "inlineValue" (refresh "InlineValueWorkspaceClientCapabilities"),
      may "inlayHint" (refresh "InlayHintWorkspaceClientCapabilities"),
      may "diagnostic" (refresh "DiagnosticWorkspaceClientCapabilities")]

/-! ### Documents -/

/-- What a client is able to do with a proposal to complete something. -/
def completionItem : Reader Fields :=
  record "CompletionItemCapability"
    [may "snippetSupport" truth, may "commitCharactersSupport" truth,
      may "documentationFormat" formats, may "deprecatedSupport" truth,
      may "preselectSupport" truth, mayOmit "tagSupport" tags,
      may "insertReplaceSupport" truth,
      may "resolveSupport" (later "CompletionItemCapabilityResolveSupport"),
      may "insertTextModeSupport" (record "InsertTextModeSupport"
        [need "valueSet" (list integer)]),
      may "labelDetailsSupport" truth]

/-- What a client is able to do with proposals to complete something. -/
def completion : Reader Fields :=
  record "CompletionClientCapabilities"
    [switch, may "completionItem" completionItem,
      may "completionItemKind" (numbers "CompletionItemKindCapability"),
      may "contextSupport" truth, may "insertTextMode" integer,
      may "completionList" (record "CompletionListCapability"
        [may "itemDefaults" (list string)])]

/-- What a client is able to do with signatures. -/
def signatureHelp : Reader Fields :=
  record "SignatureHelpClientCapabilities"
    [switch,
      may "signatureInformation" (record "SignatureInformationSettings"
        [may "documentationFormat" formats,
          may "parameterInformation" (flags "ParameterInformationSettings"
            ["labelOffsetSupport"]),
          may "activeParameterSupport" truth]),
      may "contextSupport" truth]

/-- What a client is able to do with the symbols of a document. -/
def documentSymbol : Reader Fields :=
  record "DocumentSymbolClientCapabilities"
    [switch, may "symbolKind" (numbers "SymbolKindCapability"),
      may "hierarchicalDocumentSymbolSupport" truth, mayOmit "tagSupport" tags]

/-- What a client is able to do with proposals to mend something. -/
def codeAction : Reader Fields :=
  record "CodeActionClientCapabilities"
    [switch,
      may "codeActionLiteralSupport" (record "CodeActionLiteralSupport"
        [need "codeActionKind" (record "CodeActionKindLiteralSupport"
          [need "valueSet" (list string)])]),
      may "isPreferredSupport" truth, may "disabledSupport" truth, may "dataSupport" truth,
      may "resolveSupport" (later "CodeActionCapabilityResolveSupport"),
      may "honorsChangeAnnotations" truth]

/-- What a client is able to do with new names. -/
def rename : Reader Fields :=
  record "RenameClientCapabilities"
    [switch, may "prepareSupport" truth, may "prepareSupportDefaultBehavior" integer,
      may "honorsChangeAnnotations" truth]

/-- What a client is able to do with diagnostics that it did not ask for. -/
def publishedDiagnostics : Reader Fields :=
  record "PublishDiagnosticsClientCapabilities"
    [may "relatedInformation" truth, mayOmit "tagSupport" tags, may "versionSupport" truth,
      may "codeDescriptionSupport" truth, may "dataSupport" truth]

/-- What a client is able to do with ranges that can be folded away. -/
def foldingRange : Reader Fields :=
  record "FoldingRangeClientCapabilities"
    [switch, may "rangeLimit" natural, may "lineFoldingOnly" truth,
      may "foldingRangeKind" (record "FoldingRangeKindCapability"
        [may "valueSet" (list (word ["comment", "imports", "region"]))]),
      may "foldingRange" (flags "FoldingRangeCapability" ["collapsedText"])]

/-- What a client is able to do with coloured tokens. -/
def semanticTokens : Reader Fields :=
  record "SemanticTokensClientCapabilities"
    [switch,
      need "requests" (record "SemanticTokensClientCapabilitiesRequests"
        [may "range" truth,
          may "full" (choice "SemanticTokensFullOptions" [only truth,
            only (record "SemanticTokensFullOptions" [may "delta" truth])])]),
      need "tokenTypes" (list string), need "tokenModifiers" (list string),
      need "formats" (list (word ["relative"])), may "overlappingTokenSupport" truth,
      may "multilineTokenSupport" truth, may "serverCancelSupport" truth,
      may "augmentsSyntaxTokens" truth]

/-- What a client is able to do with one document. -/
def document : Reader Fields :=
  record "TextDocumentClientCapabilities"
    [may "synchronization" (flags "TextDocumentSyncClientCapabilities"
        ["dynamicRegistration", "willSave", "willSaveWaitUntil", "didSave"]),
      may "completion" completion,
      may "hover" (record "HoverClientCapabilities" [switch, may "contentFormat" formats]),
      may "signatureHelp" signatureHelp, may "references" plain,
      may "documentHighlight" plain, may "documentSymbol" documentSymbol,
      may "formatting" plain, may "rangeFormatting" plain, may "onTypeFormatting" plain,
      may "declaration" goto, may "definition" goto, may "typeDefinition" goto,
      may "implementation" goto, may "codeAction" codeAction, may "codeLens" plain,
      may "documentLink" (flags "DocumentLinkClientCapabilities"
        ["dynamicRegistration", "tooltipSupport"]),
      may "colorProvider" plain, may "rename" rename,
      may "publishDiagnostics" publishedDiagnostics, may "foldingRange" foldingRange,
      may "selectionRange" (flags "SelectionRangeClientCapabilities" ["dynamicRegistration"]),
      may "linkedEditingRange" plain, may "callHierarchy" plain,
      may "semanticTokens" semanticTokens, may "moniker" plain, may "typeHierarchy" plain,
      may "inlineValue" plain,
      may "inlayHint" (record "InlayHintClientCapabilities"
        [switch, may "resolveSupport" (later "InlayHintResolveClientCapabilities")]),
      may "diagnostic" (flags "DiagnosticClientCapabilities"
        ["dynamicRegistration", "relatedDocumentSupport"]),
      may "inlineCompletion" (flags "InlineCompletionClientCapabilities"
        ["dynamicRegistration"])]

/-! ### Everything else -/

/-- What a client is able to do with notebooks. -/
def notebook : Reader Fields :=
  record "NotebookDocumentClientCapabilities"
    [need "synchronization" (flags "NotebookDocumentSyncClientCapabilities"
      ["dynamicRegistration", "executionSummaryReport"])]

/-- What a client is able to show in its window. -/
def window : Reader Fields :=
  record "WindowClientCapabilities"
    [may "workDoneProgress" truth,
      may "showMessage" (record "ShowMessageRequestClientCapabilities"
        [may "messageActionItem" (flags "MessageActionItemCapabilities"
          ["additionalPropertiesSupport"])]),
      may "showDocument" (record "ShowDocumentClientCapabilities" [need "support" truth])]

/-- What a client is able to do in general. -/
def general : Reader Fields :=
  record "GeneralClientCapabilities"
    [may "regularExpressions" (record "RegularExpressionsClientCapabilities"
        [need "engine" string, may "version" string]),
      may "markdown" (record "MarkdownClientCapabilities"
        [need "parser" string, may "version" string, may "allowedTags" (list string)]),
      may "staleRequestSupport" (record "StaleRequestSupportClientCapabilities"
        [need "cancel" truth, need "retryOnContentModified" (list string)]),
      may "positionEncodings" (list string)]

/-- Whether a definition may come with the range that it explains. -/
def links : Reader Bool := fun j => do
  let all ← record "ClientCapabilities"
    [may "workspace" workspace, may "textDocument" document,
      may "notebookDocument" notebook, may "window" window, may "general" general,
      may "offsetEncoding" (list string), may "experimental" any] j
  let onDocument ← all.optional "textDocument" document
  let onDefinition ← (onDocument.getD fun _ => none).optional "definition" goto
  return (← (onDefinition.getD fun _ => none).optional "linkSupport" truth).getD false

end Signpost.Ability
