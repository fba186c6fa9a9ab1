import Signpost.Session.Basic

/-!
# A session in words

For debugging, a session is described in one line: how many documents are open, the root,
the settings, and whether the client understands links.
-/

namespace Signpost

/-- A truth value in words. -/
def describeBool (b : Bool) : String :=
  if b then "true" else "false"

/-- A value that may be missing, in words. -/
def describeOption (describe : α → String) : Option α → String
  | none => "None"
  | some a => "Some(" ++ describe a ++ ")"

/-- A list of strings in words. -/
def describeStrings (l : List String) : String :=
  "[" ++ ", ".intercalate (l.map fun s => String.ofList (Text.quoted s.toList)) ++ "]"

/-- A record in words: its name, and its fields with theirs. -/
def describeFields (name : String) (fields : List (String × String)) : String :=
  name ++ " \x7b " ++ ", ".intercalate (fields.map fun (field, value) => field ++ ": " ++ value) ++
    " \x7d"

/-- Settings in words. -/
def Settings.describe (s : Settings) : String :=
  describeFields "WorkspaceSettings"
    [("html_partials", describeBool s.includes), ("worker_urls", describeBool s.workers),
      ("html_languages", describeStrings s.pageLanguages),
      ("script_languages", describeStrings s.scriptLanguages),
      ("max_backward_lines", toString s.backwardLines)]

/-- A session in words. -/
def Session.describe (s : Session) : String :=
  let root := describeOption (fun (p : Path) => String.ofList p.quoted) s.root
  let manager := describeFields "SettingsManager"
    [("workspace_root", root), ("settings", s.settings.describe),
      ("link_support", describeOption describeBool s.links)]
  "documents: " ++ s.documents.describe ++ ", settings: " ++ manager ++ ", .. \x7d"

end Signpost
