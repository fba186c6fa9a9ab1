import Signpost.Json.Basic
import Signpost.Log
import Signpost.Text.Edit

/-!
# What is said in a session

A client introduces itself, opens, changes and closes documents, sends settings, and asks
for definitions. Those are the messages that a session handles; how they travel is no
matter here.

What the session says meanwhile is a list of **remarks**, in order. Some remarks are asides
that only the log gets; the others are notices, which are sent to the client and go to the
log as well.
-/

namespace Signpost

/-- What a client says about itself in its first message. -/
structure Introduction where
  /-- The URI of the first folder that the client has open. -/
  folder : Option Text := none
  /-- The URI of the directory that the client works in. -/
  root : Option Text := none
  /-- The settings that come with the introduction. -/
  options : Option Json := none
  /-- Whether an answer may say which part of the document it is about. -/
  links : Bool := false

/-- A message of a client. Documents are named by URIs. -/
inductive Message where
  /-- The client introduces itself. -/
  | introduction (said : Introduction)
  /-- The client is ready to work. -/
  | ready
  /-- A document is opened. -/
  | opened (uri : Text) (language : String) (version : Int) (text : Text)
  /-- A document is changed. -/
  | changed (uri : Text) (version : Int) (changes : List Change)
  /-- A document is closed. -/
  | closed (uri : Text)
  /-- Settings have changed. -/
  | configured (value : Json)
  /-- The client asks where the reference at a position leads. -/
  | definition (uri : Text) (position : Position)

/-- How much a notice matters to a client. -/
inductive Urgency where
  /-- Something was left out. -/
  | warning
  /-- Something happened. -/
  | info
  /-- A detail. -/
  | detail
deriving DecidableEq, Repr

/-- The number by which a client knows how much a notice matters. -/
def Urgency.code : Urgency → Nat
  | warning => 2
  | info => 3
  | detail => 4

/-- The level at which the log keeps a notice. -/
def Urgency.level : Urgency → Level
  | warning => .warn
  | info => .info
  | detail => .debug

/-- Something that a session says. -/
inductive Remark where
  /-- For the log only. -/
  | aside (record : Record)
  /-- For the client, and for the log. -/
  | notice (urgency : Urgency) (message : String)
deriving DecidableEq, Repr

namespace Remark

/-- A remark as the log keeps it. -/
def record : Remark → Record
  | aside record => record
  | notice urgency message => ⟨urgency.level, "dank_ls::client", message⟩

/-- A remark as the client gets it, if it does. -/
def sent? : Remark → Option (Urgency × String)
  | aside _ => none
  | notice urgency message => some (urgency, message)

end Remark

/-- Where a definition is: at the start of a file, named by its URI. -/
inductive Destination where
  /-- The file alone. -/
  | place (uri : Text)
  /-- The file, and the range of the reference that leads to it. -/
  | link (origin : Range) (uri : Text)
deriving DecidableEq, Repr

/-- The URI of a destination. -/
def Destination.uri : Destination → Text
  | place uri => uri
  | link _ uri => uri

end Signpost
