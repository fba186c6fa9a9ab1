import Signpost.Settings.Basic
import Signpost.Url.Basic

/-!
# Which grammar a document is read by

A client names the language of a document, and the settings say which languages are
pages and which are scripts. When the client names none, or one that no grammar is
switched on for, the extension in the URL of the document speaks instead.
-/

namespace Signpost

namespace Language

/-- The language that an extension stands for. -/
def ofExtension? (extension : String) : Option String :=
  match extension with
  | "html" | "htm" => some "html"
  | "js" | "mjs" | "cjs" => some "javascript"
  | "jsx" => some "javascriptreact"
  | "ts" | "mts" | "cts" => some "typescript"
  | "tsx" => some "typescriptreact"
  | _ => none

/-- What follows the last dot of a name, if it has one. -/
def afterLastDot? (name : Text) : Option Text :=
  let after := name.reverse.takeWhile (· ≠ '.')
  if after.length < name.length then some after.reverse else none

/-- The language that the extension in a URL stands for. -/
def ofUrl? (url : Url) : Option String := do
  let name ← (← url.segments?).getLast?
  ofExtension? (String.ofList (← afterLastDot? name))

end Language

namespace Grammar

/-- The grammar that is switched on for a language. A language that is listed both as
a page and as a script is a page, as long as includes are switched on. -/
def ofLanguage? (settings : Settings) (language : String) : Option Grammar :=
  if settings.includes && settings.pageLanguages.contains language then some page
  else if settings.workers && settings.scriptLanguages.contains language then some script
  else none

/-- The grammar that a document is read by: by its language first, then by the
extension in its URL. -/
def detect? (settings : Settings) (language : Option String) (url : Url) : Option Grammar :=
  (language.bind (ofLanguage? settings)).or
    ((Language.ofUrl? url).bind (ofLanguage? settings))

end Grammar

end Signpost
