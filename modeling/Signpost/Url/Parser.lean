import Signpost.Url.Dots

/-!
# Reading URLs

A URL is read as browsers read it: generously. White space and control characters
around it are dropped, tabs and line breaks inside it are, too; for the **special**
schemes – those of the web, and files – a backslash is as good as a slash and the
authority may have any number of slashes in front of it. The result is normal: scheme
and host in lower case, no usual port, no `.` and `..` in the path, and every
character that may not stand for itself escaped.

Paths of files have two rules of their own. Slashes at their start are taken as one.
And a drive letter such as `C:` in front of a path is part of it, and takes the place of
a host – unless an empty host stands before the path, in which case the path counts as
starting with one more, empty, segment.
-/

namespace Signpost.Url

/-! ### Schemes -/

/-- The schemes whose URLs are read generously, with their usual ports. -/
def specialSchemes : List (String × Option Nat) :=
  [("http", some 80), ("https", some 443), ("ws", some 80), ("wss", some 443),
    ("ftp", some 21), ("file", none)]

/-- Whether a scheme is one of `specialSchemes`. -/
def isSpecial (scheme : Text) : Bool :=
  specialSchemes.any fun (name, _) => name.toList = scheme

/-- The port that goes without saying. -/
def usualPort? (scheme : Text) : Option Nat :=
  (specialSchemes.find? fun (name, _) => name.toList = scheme).bind Prod.snd

/-- A character of a scheme after the first. -/
def isSchemeChar (c : Char) : Bool :=
  c.isAlphanum || c = '+' || c = '-' || c = '.'

/-- A text without tabs and line breaks. -/
def visible (t : Text) : Text :=
  t.filter fun c => !isIgnored c

/-- A text without the tabs and line breaks at its start. -/
def peel (t : Text) : Text :=
  t.dropWhile isIgnored

/-- The scheme of a text, in lower case, and what follows its colon. -/
def scheme? (t : Text) : Option (Text × Text) :=
  let front := t.takeWhile fun c => isSchemeChar c || isIgnored c
  let name := visible front
  match t.drop front.length with
  | ':' :: rest => if name.head?.any Char.isAlpha then some (name.map Char.toLower, rest) else none
  | _ => none

/-! ### What follows the path -/

/-- A character that ends a path. -/
def endsPath (c : Char) : Bool :=
  c = '?' || c = '#'

/-- The query and the fragment in what follows a path. -/
def queryAndFragment (scheme t : Text) : Option Text × Option Text :=
  let querySet := if isSpecial scheme then Percent.specialQuery else Percent.query
  let fragment (t : Text) : Option Text :=
    match t with
    | '#' :: rest => some (Percent.encode Percent.fragment rest)
    | _ => none
  match visible t with
  | '?' :: rest =>
    let query := rest.takeWhile (· != '#')
    (some (Percent.encode querySet query), fragment (rest.drop query.length))
  | t => (none, fragment t)

/-- The URL with the given parts whose path goes on behind `front`. If the path starts with
a drive, the URL has no host. -/
def hierarchical (scheme : Text) (authority : Option Authority) (front t : Text) : Url :=
  let path := t.takeWhile fun c => !endsPath c
  let (query, fragment) := queryAndFragment scheme (t.drop path.length)
  let (path, drive) := normalPath scheme (isSpecial scheme) front path
  ⟨scheme, if drive then some .empty else authority, path, query, fragment⟩

/-! ### Authorities -/

/-- The user name and the password in a text, which a colon divides. -/
def userAndPassword (t : Text) : Text × Text :=
  let user := t.takeWhile (· != ':')
  (Percent.encode Percent.userInfo user,
    Percent.encode Percent.userInfo (t.drop (user.length + 1)))

/-- The host and, if there is a colon outside brackets, what follows it. -/
def splitPort (inBrackets : Bool) : Text → Text × Option Text
  | [] => ([], none)
  | c :: t =>
    if c = ':' && !inBrackets then ([], some t)
    else
      let inside := if c = '[' then true else if c = ']' then false else inBrackets
      let (host, port) := splitPort inside t
      (c :: host, port)

/-- The number of a port, unless it is empty or the usual one, and what follows it: a
backslash ends a port in any scheme. -/
def parsePort (scheme t : Text) : Except UrlError (Option Nat × Text) := do
  let digits := t.takeWhile Char.isDigit
  let rest := t.drop digits.length
  let n := Digits.number 10 digits
  if 0xFFFF < n || !(rest.isEmpty || rest.head? = some '\\') then throw .invalidPort
  return (if digits.isEmpty || usualPort? scheme = some n then none else some n, rest)

/-- The authority that a text spells, and what is left of the text. The text ends the URL if
nothing follows it. -/
def parseAuthority (scheme t : Text) (ends : Bool) : Except UrlError (Authority × Text) := do
  -- the last sign ends the user information: earlier ones belong to it
  let hostAndPort := (t.reverse.takeWhile (· != '@')).reverse
  let front := t.take (t.length - hostAndPort.length)
  if front = ['@'] && hostAndPort.isEmpty && !ends then throw .emptyHost
  let (username, password) := userAndPassword front.dropLast
  let (name, port?) := splitPort false hostAndPort
  if name.isEmpty && (isSpecial scheme || port?.isSome) then throw .emptyHost
  let host ← if isSpecial scheme then Host.parse name else Host.parseVerbatim name
  if name.isEmpty && !(username.isEmpty && password.isEmpty) then throw .emptyHost
  let (port, rest) ← match port? with
    | none => pure (none, [])
    | some t => parsePort scheme t
  return (⟨username, password, host, port⟩, rest)

/-- The URL of a scheme other than that of files, given what follows the slashes in
front of the authority. -/
def withAuthority (scheme t : Text) : Except UrlError Url := do
  let special := isSpecial scheme
  let front := t.takeWhile fun c => !(isSlash special c || endsPath c)
  let rest := t.drop front.length
  let (authority, left) ← parseAuthority scheme (visible front) rest.isEmpty
  match left ++ rest with
  | [] =>
    return ⟨scheme, some authority, if special then ['/'] else [], none, none⟩
  | c :: tail =>
    if isSlash special c then return hierarchical scheme (some authority) ['/'] tail
    else if special || !endsPath c then
      return hierarchical scheme (some authority) ['/'] (c :: tail)
    else
      let (query, fragment) := queryAndFragment scheme (c :: tail)
      return ⟨scheme, some authority, [], query, fragment⟩

/-! ### Files -/

/-- The URL of a file, given what follows the double slash. -/
def fileWithHost (t : Text) : Except UrlError Url := do
  let front := t.takeWhile fun c => !(isSlash true c || endsPath c)
  let name := visible front
  let rest := t.drop front.length
  -- a drive letter in the place of a host starts the path
  if isDriveLetter name then return hierarchical fileScheme (some .empty) ['/'] t
  let host ← if name.isEmpty then pure .empty else Host.parse name
  if host = .empty || host = .domain Host.localhost then
    return hierarchical fileScheme (some .empty) ['/'] rest
  let tail := match rest with
    | c :: tail => if isSlash true c then tail else rest
    | [] => []
  return hierarchical fileScheme (some ⟨[], [], host, none⟩) ['/'] tail

/-- The URL of a file, given what follows the colon. -/
def file (t : Text) : Except UrlError Url :=
  match peel t with
  | [] => .ok (hierarchical fileScheme (some .empty) ['/'] [])
  | c :: rest =>
    if isSlash true c then
      match peel rest with
      | d :: tail =>
        if isSlash true d then fileWithHost tail
        else .ok (hierarchical fileScheme (some .empty) ['/'] rest)
      | [] => .ok (hierarchical fileScheme (some .empty) ['/'] [])
    else
      .ok (hierarchical fileScheme (some .empty) ['/'] t)

/-! ### The whole -/

/-- A control character or a blank. -/
def isMargin (c : Char) : Bool :=
  c.toNat ≤ 0x20

/-- A text without its margins. -/
def strip (t : Text) : Text :=
  ((t.dropWhile isMargin).reverse.dropWhile isMargin).reverse

/-- The URL of a scheme that is not special, given what follows the colon. -/
def plain (scheme t : Text) : Except UrlError Url :=
  match peel t with
  | '/' :: rest =>
    match peel rest with
    | '/' :: tail => withAuthority scheme tail
    | _ => .ok (hierarchical scheme none ['/'] rest)
  | _ =>
    let path := t.takeWhile fun c => !endsPath c
    let (query, fragment) := queryAndFragment scheme (t.drop path.length)
    .ok ⟨scheme, none, Percent.encode Percent.control (visible path), query, fragment⟩

/-- The URL that a text spells. -/
def parse (t : Text) : Except UrlError Url :=
  match scheme? (strip t) with
  | none => .error .relativeWithoutBase
  | some (scheme, rest) =>
    if scheme = fileScheme then file rest
    else if isSpecial scheme then
      withAuthority scheme (rest.dropWhile fun c => isSlash true c || isIgnored c)
    else plain scheme rest

end Signpost.Url
