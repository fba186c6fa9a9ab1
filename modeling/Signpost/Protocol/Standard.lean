import Signpost.Protocol.Params
import Signpost.Protocol.Request

/-!
# The methods of the protocol

The protocol knows many more methods than this server has an answer to. A method that is
known but not offered is refused in another way than one that is unknown: it is subject to
the life cycle of the server, and its parameters are looked at before it is refused. So
every method of the protocol is told apart here from those that are none.
-/

namespace Signpost.Standard

/-- The notifications that are known and pass unnoticed. -/
def notifications : List String :=
  ["textDocument/willSave", "textDocument/didSave", "notebookDocument/didOpen",
    "notebookDocument/didChange", "notebookDocument/didSave", "notebookDocument/didClose",
    "workspace/didChangeWorkspaceFolders", "workspace/didCreateFiles",
    "workspace/didRenameFiles", "workspace/didDeleteFiles", "workspace/didChangeWatchedFiles",
    "window/workDoneProgress/cancel"]

/-- The notifications that this server handles. -/
def handled : List (String × Shape.Reader Message) :=
  [("initialized", Params.ready), ("textDocument/didOpen", Params.opened),
    ("textDocument/didChange", Params.changed), ("textDocument/didClose", Params.closed),
    ("workspace/didChangeConfiguration", Params.configured)]

/-- What a server does with a method. -/
inductive Method where
  /-- The client introduces itself. -/
  | introduction
  /-- The client asks the server to finish its work. -/
  | shutdown
  /-- The client asks the server to go away. -/
  | exit
  /-- The client asks for a definition. -/
  | definition
  /-- A request that is known and not offered. -/
  | notOffered (shape : Shape.Reader Shape.Fields)
  /-- A notification that is handled. -/
  | notification (read : Shape.Reader Message)
  /-- A notification that passes unnoticed. -/
  | unnoticed
  /-- The client is no longer interested in an answer. Every answer is already given. -/
  | cancellation
  /-- No method of the protocol. -/
  | unknown

/-- What a server does with the method of a name. -/
def Method.ofName (name : String) : Method :=
  match name with
  | "initialize" => introduction
  | "shutdown" => shutdown
  | "exit" => exit
  | "$/cancelRequest" => cancellation
  | "textDocument/definition" => definition
  | name =>
    match handled.lookup name, Request.known.lookup name with
    | some read, _ => notification read
    | none, some shape => notOffered shape
    | none, none => if notifications.contains name then unnoticed else unknown

end Signpost.Standard
