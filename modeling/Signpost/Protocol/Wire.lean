import Signpost.Protocol.Server

/-!
# Messages on the wire

On the wire a message is a JSON object with a header that gives its length. A request or a
notification may also be an array of its fields. Notices travel as notifications of their
own, and they leave before the response to the message that caused them.
-/

namespace Signpost.Wire

/-- The version of the wire format. -/
def version : String := "2.0"

/-- An object in the wire format. -/
def object (members : List (String × Json)) : Json :=
  .obj (("jsonrpc", .str version) :: members)

/-- A response. -/
def ofResponse (response : Response) : Json :=
  match response.outcome with
  | .ok value => object [("result", value), ("id", response.id)]
  | .error refusal => object [("error", refusal.toJson), ("id", response.id)]

/-- A notice. -/
def ofNotice (urgency : Urgency) (message : String) : Json :=
  object [("method", .str "window/logMessage"),
    ("params", .obj [("type", .ofNat urgency.code), ("message", .str message)])]

/-- Whether a field gives the version of the wire format. -/
def isVersion : Option Json → Bool
  | some (.str v) => v = version
  | _ => false

/-- Whether a value may be the id of a message. -/
def isId : Json → Bool
  | .null => true
  | .str _ => true
  | .num (.int n) => fitsSigned 64 n
  | _ => false

/-- What arrives on the wire. -/
inductive Arrival where
  /-- A request or a notification. -/
  | message (envelope : Envelope)
  /-- A response to something that was sent; nothing waits for one. -/
  | response
  /-- Nothing of the kind. -/
  | nonsense

/-- Whether a value tells of an error: by its number and its wording. -/
def isError : Json → Bool
  | .arr [.num (.int code), .str _, _] => fitsSigned 64 code
  | j =>
    match j.get? "code", j.get? "message" with
    | some (.num (.int code)), some (.str _) => fitsSigned 64 code
    | _, _ => false

/-- Whether a value is a response. -/
def isResponse (j : Json) : Bool :=
  isVersion (j.get? "jsonrpc") && (j.get? "id").any isId &&
    ((j.get? "result").isSome || (j.get? "error").any isError)

/-- The fields of a request or a notification, in the order in which an array holds them. -/
def fields : List String := ["jsonrpc", "method", "params", "id"]

/-- The fields that a value gives, by name. An array may leave out the last ones. -/
def members? : Json → Option (List (String × Json))
  | .obj members => some members
  | .arr items => if items.length ≤ fields.length then some (fields.zip items) else none
  | _ => none

/-- The name of a method, which is empty if it is left out. -/
def method? : Option Json → Option String
  | none => some ""
  | some (.str name) => some name
  | some _ => none

/-- The request or notification that a value is. -/
def envelope? (j : Json) : Option Envelope := do
  let members ← members? j
  guard (isVersion (members.lookup "jsonrpc"))
  let method ← method? (members.lookup "method")
  let id := members.lookup "id"
  guard (id.all isId)
  return { method, params := members.lookup "params", id }

/-- What a JSON value on the wire is. A value that can be a response is one. -/
def arrival (j : Json) : Arrival :=
  if isResponse j then .response
  else
    match envelope? j with
    | some envelope => .message envelope
    | none => .nonsense

/-- What is written when a message comes to a receipt. -/
def written (receipt : Receipt) : List Json :=
  let notices := receipt.remarks.filterMap Remark.sent?
  notices.map (fun (urgency, message) => ofNotice urgency message) ++
    receipt.response.toList.map ofResponse

/-- One value on the wire is taken in: the server afterwards, what is written, and what the
log gets. -/
def step (server : Server) (env : Environment) (disk : Disk) (j : Json) :
    Server × List Json × List Record :=
  match arrival j with
  | .message envelope =>
    let receipt := server.receive env disk envelope
    (receipt.server, written receipt, receipt.remarks.map Remark.record)
  | .response => (server, [], [])
  | .nonsense => (server, [ofResponse ⟨.null, .error .outOfPlace⟩], [])

/-- A whole conversation, with the world standing still. -/
def converse (env : Environment) (disk : Disk) :
    Server → List Json → List Json × List Record
  | _, [] => ([], [])
  | server, j :: rest =>
    let (server, written, records) := step server env disk j
    let (moreWritten, moreRecords) := converse env disk server rest
    (written ++ moreWritten, records ++ moreRecords)

/-! ### Headers -/

/-- The name of the header that gives a length. -/
def lengthHeader : Text := "content-length:".toList

/-- The length that a line of a header gives. -/
def lengthOf? (line : String) : Option Nat := do
  let t := line.toList
  let value ← Text.skip? lengthHeader ((t.take lengthHeader.length).map Char.toLower)
  if !value.isEmpty then none
  let digits := (t.drop lengthHeader.length).filter fun c => !c.isWhitespace
  Digits.natural? 10 digits

/-- A message with its header. -/
def frame (j : Json) : String :=
  let body := j.render
  "Content-Length: " ++ toString body.utf8ByteSize ++ "\r\n\r\n" ++ body

end Signpost.Wire
