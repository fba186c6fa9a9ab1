import Signpost.Document.Store

/-!
# Stores that are shared

A store is reached through a handle, and a handle can be cloned. A clone leads to the
**same store** as the handle it was made from: what is done through one is seen through the
other. So stores stand on a shelf, each at an address, and a handle is no more than an
address; to clone a handle is to write its address down once more.

What a store can be asked is a `Call`, and what it says is an `Answer`. One answer is not
read and forgotten: a snapshot is kept by whoever asked for it. The shelf therefore also
holds the snapshots that have been taken, in order.
-/

namespace Signpost

/-- What can be asked of a store. -/
inductive Call where
  /-- A document is opened. -/
  | insert (url : Url) (text : Text) (language : Option String) (version : Option Int)
  /-- A document gets another text, and perhaps another version. -/
  | update (url : Url) (text : Text) (version : Option Int)
  /-- A document is closed. -/
  | remove (url : Url)
  /-- Is a document open? -/
  | contains (url : Url)
  /-- What is the text of a document? -/
  | text (url : Url)
  /-- What is a document like at this moment? -/
  | snapshot (url : Url)
deriving DecidableEq, Repr

/-- The URL that a call is about. -/
def Call.url : Call → Url
  | insert url _ _ _ => url
  | update url _ _ => url
  | remove url => url
  | contains url => url
  | text url => url
  | snapshot url => url

/-- What a store says to a call. -/
inductive Answer where
  /-- It has been done. -/
  | done
  /-- It cannot be done. -/
  | refused (failure : Failure)
  /-- This document was closed, if there was one. -/
  | removed (document : Option Document)
  /-- Whether the document is open. -/
  | contains (open? : Bool)
  /-- The text, if the document is open. -/
  | text (text : Option Text)
  /-- The document at this moment, if it is open. -/
  | snapshot (snapshot : Option Snapshot)
deriving DecidableEq, Repr

/-- The snapshot that comes with an answer. -/
def Answer.taken? : Answer → Option Snapshot
  | snapshot s => s
  | _ => none

/-- What a call does to a store, and what the store says to it. -/
def Store.call (store : Store) : Call → Store × Answer
  | .insert url text language version => (store.insert url (.ofText text language version), .done)
  | .update url text version =>
    match store.update url text version with
    | .ok store => (store, .done)
    | .error failure => (store, .refused failure)
  | .remove url => (store.erase url, .removed (store.get? url))
  | .contains url => (store, .contains (store.contains url))
  | .text url => (store, .text (store.text? url))
  | .snapshot url => (store, .snapshot (store.snapshot? url))

/-- Stores, the handles that lead to them, and the snapshots that were taken of their
documents. -/
structure Shelf where
  /-- The stores, by their addresses. -/
  stores : List Store := []
  /-- The address to which each handle leads. -/
  handles : List Nat := []
  /-- The snapshots that have been taken. -/
  taken : List Snapshot := []
  /-- Every handle leads to a store. -/
  lt_length : ∀ address ∈ handles, address < stores.length := by simp

namespace Shelf

/-- The shelf without stores. -/
def empty : Shelf := {}

/-- The store to which a handle leads. -/
def store? (shelf : Shelf) (handle : Nat) : Option Store :=
  shelf.handles[handle]?.bind (shelf.stores[·]?)

/-- A new store, with a handle that leads to it. -/
def create (shelf : Shelf) : Shelf where
  stores := shelf.stores ++ [.empty]
  handles := shelf.handles ++ [shelf.stores.length]
  taken := shelf.taken
  lt_length address h := by
    rw [List.length_append, List.length_singleton]
    rcases List.mem_append.1 h with h | h
    · exact Nat.lt_succ_of_lt (shelf.lt_length address h)
    · rw [List.mem_singleton.1 h]
      exact Nat.lt_succ_self _

/-- One more handle, which leads to the same store as another. -/
def clone (shelf : Shelf) (handle : Nat) : Shelf where
  stores := shelf.stores
  handles := shelf.handles ++ shelf.handles[handle]?.toList
  taken := shelf.taken
  lt_length address h := by
    rcases List.mem_append.1 h with h | h
    · exact shelf.lt_length address h
    · exact shelf.lt_length address (List.mem_of_getElem? (Option.mem_toList.1 h))

/-- The shelf with another store at an address. -/
def put (shelf : Shelf) (address : Nat) (store : Store) : Shelf where
  stores := shelf.stores.set address store
  handles := shelf.handles
  taken := shelf.taken
  lt_length := by
    rw [List.length_set]
    exact shelf.lt_length

/-- The shelf with one more snapshot, if there is one. -/
def keep (shelf : Shelf) (snapshot : Option Snapshot) : Shelf :=
  { shelf with taken := shelf.taken ++ snapshot.toList }

/-- A call through a handle. There is no answer without such a handle. -/
def call (shelf : Shelf) (handle : Nat) (call : Call) : Option (Shelf × Answer) := do
  let address ← shelf.handles[handle]?
  let store ← shelf.stores[address]?
  let (store, answer) := store.call call
  some ((shelf.put address store).keep answer.taken?, answer)

end Shelf

end Signpost
