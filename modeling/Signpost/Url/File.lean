import Signpost.Path.Clean
import Signpost.Url.Parser

/-!
# URLs and file paths

An absolute path has a file URL: its components, each with the bytes escaped that a
segment may not hold. The way back decodes every segment. It does not look at the
scheme: any URL with a hierarchy on this machine names a path.
-/

namespace Signpost.Url

/-- The file URL of an absolute path. -/
def ofPath? (p : Path) : Option Url :=
  if p.isAbsolute then
    let names := (p.components.drop 1).map Path.Component.bytes
    let segments := names.map (Percent.encodeBytes Percent.segment)
    some ⟨fileScheme, some .empty, '/' :: List.intercalate ['/'] segments, none, none⟩
  else
    none

/-- The bytes of a path that ends in a drive letter get a slash behind it. -/
def closeDrive (bytes : Bytes) : Bytes :=
  match bytes.reverse with
  | mark :: letter :: _ :: _ =>
    if (Char.ofNat letter.toNat).isAlpha && (mark.toNat = 0x3A || mark.toNat = 0x7C) then
      bytes ++ [Path.slash]
    else
      bytes
  | _ => bytes

/-- The path that a URL names, if its host is this machine and it has a hierarchy. -/
def toPath? (u : Url) : Option Path :=
  if u.isLocal then
    u.segments?.map fun segments =>
      ⟨closeDrive (segments.flatMap fun segment => Path.slash :: Percent.decode segment)⟩
  else
    none

/-- The directory of the file that a URL names. -/
def directory? (u : Url) : Option Path :=
  u.toPath?.bind Path.parent?

end Signpost.Url
