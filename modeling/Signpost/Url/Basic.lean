import Signpost.Url.Host

/-!
# URLs

A URL in parts. The path is kept as text, because everything that is asked about it –
its segments, its file name, the file it names – is a question about that text; it
starts with a slash unless the URL has no hierarchy at all, as in `mailto:a@b`.

Two URLs are the same when their parts are, which is when their texts are: a document
is looked up by its URL, so this is what decides whether two messages speak of one
document.

## Main definitions

* `Signpost.Url`, `Signpost.Url.href`: a URL and its text.
* `Signpost.Url.segments?`: the segments of a hierarchical path.
-/

namespace Signpost

/-- The part of a URL between the double slash and the path. -/
structure Authority where
  /-- The user name, encoded. -/
  username : Text
  /-- The password, encoded. -/
  password : Text
  /-- The host. -/
  host : Host
  /-- The port, unless it is the usual one of the scheme. -/
  port : Option Nat
deriving DecidableEq, Repr

namespace Authority

/-- The authority of a file on this machine. -/
def empty : Authority := ⟨[], [], .empty, none⟩

/-- User name and password, with the sign that ends them. -/
def userInfo (a : Authority) : Text :=
  if a.username.isEmpty && a.password.isEmpty then []
  else if a.password.isEmpty then a.username ++ ['@']
  else a.username ++ [':'] ++ a.password ++ ['@']

/-- The text of an authority. -/
def text (a : Authority) : Text :=
  a.userInfo ++ a.host.text ++
    match a.port with
    | none => []
    | some n => ':' :: Nat.toDigits 10 n

end Authority

/-- A URL. -/
structure Url where
  /-- The scheme, in lower case. -/
  scheme : Text
  /-- The authority, if the URL has a double slash. -/
  authority : Option Authority
  /-- The path, encoded. -/
  path : Text
  /-- What follows the question mark, encoded. -/
  query : Option Text
  /-- What follows the number sign, encoded. -/
  fragment : Option Text
deriving DecidableEq, Repr

namespace Url

/-- The scheme of files. -/
def fileScheme : Text := ['f', 'i', 'l', 'e']

/-- The path as it stands in the text of a URL. Without an authority, a path that
starts with two slashes would be taken for one, so a step that names nothing goes in
front. -/
def pathText (u : Url) : Text :=
  match u.authority, u.path with
  | none, '/' :: '/' :: rest => ['/', '.', '/', '/'] ++ rest
  | _, path => path

/-- The text of a URL. -/
def href (u : Url) : Text :=
  u.scheme ++ [':'] ++
    (match u.authority with
      | none => []
      | some a => ['/', '/'] ++ a.text) ++
    u.pathText ++
    (match u.query with
      | none => []
      | some q => '?' :: q) ++
    (match u.fragment with
      | none => []
      | some f => '#' :: f)

/-- The text of a URL as a string, for messages. -/
def display (u : Url) : String := String.ofList u.href

/-- The segments of a path, if the URL has a hierarchy. -/
def segments? (u : Url) : Option (List Text) :=
  match u.path with
  | '/' :: rest => some (rest.splitOn '/')
  | _ => none

/-- A URL whose host is this machine: none, the empty one, or `localhost`. -/
def isLocal (u : Url) : Bool :=
  match u.authority with
  | none => true
  | some a =>
    match a.host with
    | .domain name => name.isEmpty || name = Host.localhost
    | _ => false

end Url

end Signpost
