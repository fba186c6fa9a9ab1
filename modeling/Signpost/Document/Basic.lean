import Signpost.Resolve.Basic
import Signpost.Text.Lines

/-!
# Documents

A document is what a client has open: a text, the language it was opened with, and the
version that the client gave it last. A snapshot of a document goes with its URL; it is a
value, so later edits do not reach it.

A document also keeps the offsets at which its lines start, so that they are not computed
for every question. They are computed when the document is opened, and again when it gets
another text; that they are **those of its text** is part of its type.
-/

namespace Signpost

/-- An open document. -/
structure Document where
  /-- The text. -/
  text : Text
  /-- The language, as the client calls it. -/
  language : Option String
  /-- The version that the client gave last. -/
  version : Option Int
  /-- The offsets at which the lines start. -/
  starts : List Nat
  /-- The offsets are those of the text. -/
  starts_eq : starts = text.lineStarts
deriving DecidableEq, Repr

namespace Document

/-- A document as it is opened. -/
def ofText (text : Text) (language : Option String) (version : Option Int) : Document :=
  { text, language, version, starts := text.lineStarts, starts_eq := rfl }

@[simp] theorem text_ofText (text : Text) (language : Option String) (version : Option Int) :
    (ofText text language version).text = text := rfl

/-- The document with another text. It keeps its language, and its version unless a new
one is given. -/
def revise (d : Document) (text : Text) (version : Option Int) : Document :=
  { text, language := d.language, version := version.or d.version,
    starts := text.lineStarts, starts_eq := rfl }

/-- The text of a line. -/
def line? (d : Document) (n : Nat) : Option Text :=
  d.text.line? d.starts n

/-- The offsets do not tell two documents apart. -/
@[ext] theorem ext {d e : Document} (htext : d.text = e.text) (hlanguage : d.language = e.language)
    (hversion : d.version = e.version) : d = e := by
  have hstarts : d.starts = e.starts := by rw [d.starts_eq, e.starts_eq, htext]
  cases d
  cases e
  congr

/-- What is found by the offsets of a document is what is found in its text. -/
theorem line?_eq (d : Document) : d.line? = d.text.lineAt? := by
  funext n
  rw [line?, d.starts_eq, Text.lineAt?]

end Document

/-- A document at one moment, with the URL it is open under. -/
structure Snapshot where
  /-- The URL. -/
  url : Url
  /-- The document. -/
  document : Document
deriving DecidableEq, Repr

namespace Snapshot

/-- The directory of the document, if its URL names a file. -/
def directory? (s : Snapshot) : Option Path :=
  s.url.directory?

/-- What resolution reads of a snapshot. No declaration is known around any position. -/
def source (s : Snapshot) : Source where
  line := s.document.line?
  directory := s.directory?
  declaration _ := none

/-- **Resolution reads the lines of the text.** -/
theorem line_source (s : Snapshot) : s.source.line = s.document.text.lineAt? :=
  s.document.line?_eq

end Snapshot

end Signpost
