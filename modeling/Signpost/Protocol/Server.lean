import Signpost.Protocol.Standard
import Signpost.Session.Basic
import Signpost.Token.Include

/-!
# The server

A server leads a session through its **life cycle**. It waits for an introduction; then it
works; after a shutdown it refuses whatever comes; and once it is told to exit it hears
nothing any more. A message with an id is a request and gets exactly one response, unless
its method is one that is never answered; a message without one is a notification and gets
none. A notification of the protocol that comes with an id is out of place, and nothing is
done but to say so.

`Server.receive` takes one message from the wire. Everything about documents, settings and
definitions is left to the session.
-/

namespace Signpost

/-- Where a server is in its life cycle. -/
inductive Phase where
  /-- It waits for an introduction. -/
  | waiting
  /-- It works. -/
  | working
  /-- It was asked to finish. -/
  | finished
  /-- It has gone away. -/
  | gone
deriving DecidableEq, Repr

/-- Why a request is refused. -/
inductive Refusal where
  /-- The server has not been introduced to a client. -/
  | notIntroduced
  /-- The request is out of place. -/
  | outOfPlace
  /-- There is no such method. -/
  | unknownMethod (name : String)
  /-- The method is known and not offered. -/
  | notOffered
  /-- The parameters are not understood. -/
  | invalidParams (fault : Shape.Fault)

namespace Refusal

/-- The number of a refusal. -/
def code : Refusal → Int
  | notIntroduced => -32002
  | outOfPlace => -32600
  | unknownMethod _ => -32601
  | notOffered => -32601
  | invalidParams _ => -32602

/-- The wording of a refusal. -/
def message : Refusal → String
  | notIntroduced => "Server not initialized"
  | outOfPlace => "Invalid request"
  | unknownMethod _ => "Method not found"
  | notOffered => "Method not found"
  | invalidParams fault => fault.message

/-- A refusal on the wire. -/
def toJson (refusal : Refusal) : Json :=
  .obj ([("code", .num (.int refusal.code)), ("message", .str refusal.message)] ++
    match refusal with
    | unknownMethod name => [("data", .str name)]
    | _ => [])

end Refusal

/-- A message on the wire. -/
structure Envelope where
  /-- The name of the method. -/
  method : String
  /-- The parameters. -/
  params : Option Json := none
  /-- The id of a request. -/
  id : Option Json := none

/-- The response to a request. -/
structure Response where
  /-- The id of the request. -/
  id : Json
  /-- The result, or why there is none. -/
  outcome : Except Refusal Json

/-- A server. -/
structure Server where
  /-- Where it is in its life cycle. -/
  phase : Phase := .waiting
  /-- Its session. -/
  session : Session := .fresh

/-- What comes of a message on the wire. -/
structure Receipt where
  /-- The server afterwards. -/
  server : Server
  /-- The response, if there is one. -/
  response : Option Response := none
  /-- What the session says meanwhile. -/
  remarks : List Remark := []

namespace Server

/-- The server before any message. -/
def fresh : Server := {}

/-! ### Results -/

/-- The name of this server. -/
def name : String := "dank-ls"

/-- The version of this server. -/
def version : String := "0.1.0"

/-- The result of an introduction: what the server offers. Changes of documents are taken
one by one, and the word pattern says what a double click on an include selects. -/
def welcome : Json :=
  .obj [
    ("capabilities", .obj [
      ("textDocumentSync", .ofNat 2),
      ("definitionProvider", .bool true),
      ("experimental", .obj [
        ("wordPatterns", .obj [("html", .str Include.wordPattern)])])]),
    ("serverInfo", .obj [("name", .str name), ("version", .str version)])]

/-- A position on the wire. -/
def ofPosition (p : Position) : Json :=
  .obj [("line", .ofNat p.line), ("character", .ofNat p.character)]

/-- A range on the wire. -/
def ofRange (r : Range) : Json :=
  .obj [("start", ofPosition r.start), ("end", ofPosition r.stop)]

/-- The result of a question for a definition. -/
def ofDestination : Option Destination → Json
  | none => .null
  | some (.place uri) => .arr [.obj [("uri", .ofText uri), ("range", ofRange .origin)]]
  | some (.link origin uri) =>
    .arr [.obj [("originSelectionRange", ofRange origin), ("targetUri", .ofText uri),
      ("targetRange", ofRange .origin), ("targetSelectionRange", ofRange .origin)]]

/-! ### Receiving -/

/-- Refuses a message. A notification is dropped in silence. -/
def refuse (server : Server) (envelope : Envelope) (refusal : Refusal) : Receipt :=
  { server, response := envelope.id.map (⟨·, .error refusal⟩) }

/-- The parameters of a message. -/
def read (envelope : Envelope) (reader : Shape.Reader α) : Except Shape.Fault α :=
  match envelope.params with
  | none => .error .absent
  | some params => reader params

/-- Hands a message to the session. -/
def handle (server : Server) (env : Environment) (disk : Disk) (message : Message) :
    Server × Reaction :=
  let reaction := server.session.handle env disk message
  ({ server with session := reaction.session }, reaction)

/-- A client introduces itself. An introduction that is not understood leaves the server
waiting for another one. -/
def introduce (server : Server) (env : Environment) (disk : Disk) (envelope : Envelope) :
    Receipt :=
  match envelope.id with
  | none => { server }
  | some id =>
    match read envelope Params.introduction with
    | .error fault => server.refuse envelope (.invalidParams fault)
    | .ok said =>
      let (server, reaction) := server.handle env disk (.introduction said)
      { server := { server with phase := .working }, response := some ⟨id, .ok welcome⟩,
        remarks := reaction.remarks }

/-- A client asks the server to finish. It does so even if the request is faulty. -/
def finish (server : Server) (envelope : Envelope) : Receipt :=
  let server := { server with phase := .finished }
  match envelope.id, envelope.params with
  | none, _ => { server }
  | some id, none => { server, response := some ⟨id, .ok .null⟩ }
  | some id, some .null => { server, response := some ⟨id, .ok .null⟩ }
  | some _, some params => server.refuse envelope (.invalidParams (.unwanted params))

/-- A method whose messages are never answered, not even when they are refused. -/
def isOptional (method : String) : Bool :=
  "$/".toList.isPrefixOf method.toList

/-- A working server receives a message. -/
def work (server : Server) (env : Environment) (disk : Disk) (envelope : Envelope) :
    Standard.Method → Receipt
  | .definition =>
    match envelope.id with
    | none => { server }
    | some id =>
      match read envelope Params.definition with
      | .error fault => server.refuse envelope (.invalidParams fault)
      | .ok message =>
        let (server, reaction) := server.handle env disk message
        { server, response := some ⟨id, .ok (ofDestination reaction.destination)⟩,
          remarks := reaction.remarks }
  | .notOffered shape =>
    match read envelope shape with
    | .error fault => server.refuse envelope (.invalidParams fault)
    | .ok _ => server.refuse envelope .notOffered
  | .notification reader =>
    match envelope.id, read envelope reader with
    | some _, _ => server.refuse envelope .outOfPlace
    | none, .ok message =>
      let (server, reaction) := server.handle env disk message
      { server, remarks := reaction.remarks }
    | none, .error _ => { server }
  | .shutdown => server.finish envelope
  | .introduction => server.refuse envelope .outOfPlace
  | .unnoticed => server.refuse envelope .outOfPlace
  | .cancellation => server.refuse envelope .outOfPlace
  | .exit => { server }
  | .unknown => { server }

/-- Receives a message. -/
def receive (server : Server) (env : Environment) (disk : Disk) (envelope : Envelope) :
    Receipt :=
  match Standard.Method.ofName envelope.method, server.phase with
  | _, .gone => { server }
  | .exit, _ => { server := { server with phase := .gone } }
  | .cancellation, _ => server.refuse envelope .outOfPlace
  | .unknown, _ =>
    if isOptional envelope.method then { server }
    else server.refuse envelope (.unknownMethod envelope.method)
  | .introduction, .waiting => server.introduce env disk envelope
  | _, .waiting => server.refuse envelope .notIntroduced
  | _, .finished => server.refuse envelope .outOfPlace
  | method, .working => server.work env disk envelope method

end Server

end Signpost
