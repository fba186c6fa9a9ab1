import Signpost.Text.Basic

/-!
# White space

The layout of a reference may use any white space there is, not only the blank and
the tab: twenty-five characters have the property `White_Space`, among them the
line terminators, the no-break space and the ideographic space.
-/

namespace Signpost.Text

/-- A character with the property `White_Space`. -/
def isBlank (c : Char) : Bool :=
  let n := c.toNat
  (0x09 ≤ n && n ≤ 0x0D) || n = 0x20 || n = 0x85 || n = 0xA0 || n = 0x1680 ||
    (0x2000 ≤ n && n ≤ 0x200A) || n = 0x2028 || n = 0x2029 || n = 0x202F ||
    n = 0x205F || n = 0x3000

/-- A text without its leading white space. -/
def trimStart (t : Text) : Text :=
  t.dropWhile isBlank

end Signpost.Text
