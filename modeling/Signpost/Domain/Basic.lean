import Signpost.Domain.Direction
import Signpost.Domain.Joiner
import Signpost.Domain.Mapping
import Signpost.Domain.Punycode
import Signpost.Text.Mark

/-!
# Names of hosts

A host has a name of labels with dots between them. A label has two forms: the one that is
**shown**, in any script, and the one that is **looked up**, in ASCII, where `xn--` marks a
code for the former. `Domain.lookup?` gives the form that is looked up, whichever was
typed.

A name is mapped and brought into canonical form. Then each of its labels must be fit to be
shown: it does not start with a mark, its joiners make a difference, and, if anything in the
name runs from right to left, its order can be told. A code must stand for a label that
could have been typed, exactly as it is.
-/

namespace Signpost.Domain

/-- A text of ASCII characters only. -/
def isAscii (t : Text) : Bool :=
  t.all fun c => c.toNat < 0x80

/-- The sign of a label that is a code. -/
def codeSign : Text := ['x', 'n', '-', '-']

/-- The form of a label that is shown. A code must stand for a label that needs one and
that is in canonical form. -/
def shown? (label : Text) : Option Text :=
  if codeSign.isPrefixOf label then do
    let shown ← Punycode.decode? (label.drop codeSign.length)
    if isAscii shown || !shown.all isKept || Text.canonical shown != shown then none
    return shown
  else
    some label

/-- A label that is fit to be shown. -/
def isFit (shown : Text) : Bool :=
  !shown.head?.any Text.isMark && joinersFit [] shown

/-- The form of a label that is looked up. -/
def asciiLabel (label : Text) : Text :=
  if isAscii label then label else codeSign ++ Punycode.encode label

/-- The form of a name that is looked up, if it has one. -/
def lookup? (name : Text) : Option Text := do
  let mapped ← name.mapM map?
  let labels := (Text.canonical mapped.flatten).splitOn '.'
  let shown ← labels.mapM shown?
  if !shown.all isFit then none
  if shown.any (·.any isRightward) && !shown.all isOrdered then none
  return List.intercalate ['.'] (labels.map asciiLabel)

end Signpost.Domain
