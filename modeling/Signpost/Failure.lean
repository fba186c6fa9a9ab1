import Signpost.Disk.Basic

/-!
# Failures

Resolution never fails from a client's point of view: whatever goes wrong on the way to
a target means that there is no target. The failures here are about what stands around
it – settings, addresses, documents, files – and are told to the user in one line.
-/

namespace Signpost

/-- What went wrong around a resolution. -/
inductive Failure where
  /-- Settings cannot be read. -/
  | configuration (reason : String)
  /-- A path or an address has no other form. -/
  | invalidUri (uri : String)
  /-- No such document is open. -/
  | documentNotFound (uri : String)
  /-- A file cannot be opened or read. -/
  | disk (error : DiskError)
deriving DecidableEq, Repr

/-- The wording of a failure. -/
def Failure.message : Failure → String
  | configuration reason => "Invalid configuration: " ++ reason
  | invalidUri uri => "Invalid URI: " ++ uri
  | documentNotFound uri => "Document not found: " ++ uri
  | disk error => "IO error: " ++ error.message

end Signpost
