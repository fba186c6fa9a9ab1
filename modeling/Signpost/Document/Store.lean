import Signpost.Document.Basic
import Signpost.Failure

/-!
# The store of open documents

A store holds documents by their URLs, **one at most for each URL**; that is part of its
type. The order of the entries shows nowhere, so a store is known by what it answers to
`Store.get?`, and by how many documents it holds.

A store is also what makes a path a valid target before there is a file: `Store.probe`
accepts what is open in the editor and asks the disk about the rest.
-/

namespace Signpost

/-- The open documents by their URLs. -/
structure Store where
  /-- The documents. -/
  entries : List (Url × Document)
  /-- No two documents are open under one URL. -/
  nodup : (entries.map Prod.fst).Nodup
deriving Repr

namespace Store

/-- The store without documents. -/
def empty : Store := ⟨[], List.nodup_nil⟩

instance : Inhabited Store := ⟨empty⟩

/-- The document under a URL. -/
def get? (store : Store) (url : Url) : Option Document :=
  store.entries.lookup url

/-- The number of open documents. -/
def count (store : Store) : Nat :=
  store.entries.length

/-- Whether a document is open under a URL. -/
def contains (store : Store) (url : Url) : Bool :=
  (store.get? url).isSome

/-- The entries under all other URLs. -/
def others (store : Store) (url : Url) : List (Url × Document) :=
  store.entries.filter fun entry => entry.1 != url

theorem nodup_others (store : Store) (url : Url) :
    ((store.others url).map Prod.fst).Nodup :=
  store.nodup.sublist (List.filter_sublist.map Prod.fst)

theorem notMem_others (store : Store) (url : Url) :
    url ∉ (store.others url).map Prod.fst := by
  simp [others]

/-- Opens a document under a URL, in place of any other. -/
def insert (store : Store) (url : Url) (document : Document) : Store where
  entries := (url, document) :: store.others url
  nodup := List.nodup_cons.2 ⟨store.notMem_others url, store.nodup_others url⟩

/-- Closes the document under a URL. -/
def erase (store : Store) (url : Url) : Store :=
  ⟨store.others url, store.nodup_others url⟩

/-- Replaces the text of the document under a URL, and its version if one is given. -/
def update (store : Store) (url : Url) (text : Text) (version : Option Int) :
    Except Failure Store :=
  match store.get? url with
  | none => .error (.documentNotFound url.display)
  | some document => .ok (store.insert url (document.revise text version))

/-- The text of the document under a URL. -/
def text? (store : Store) (url : Url) : Option Text :=
  (store.get? url).map Document.text

/-- The document under a URL as it is now. -/
def snapshot? (store : Store) (url : Url) : Option Snapshot :=
  (store.get? url).map fun document => ⟨url, document⟩

/-- What a message says about a store. -/
def describe (store : Store) : String :=
  "DocumentStore \x7b documents: " ++ toString store.count ++ " \x7d"

/-- Accepts the paths of open documents, and otherwise what the disk accepts. -/
def probe (store : Store) (disk : Disk) : Probe := fun p =>
  match Url.ofPath? p with
  | some url => if store.contains url then .ok () else disk.probe p
  | none => disk.probe p

/-! ### What a store answers after an operation -/

@[simp] theorem get?_empty (url : Url) : empty.get? url = none := rfl

theorem lookup_others_self (store : Store) (url : Url) :
    (store.others url).lookup url = none := by
  rw [List.lookup_eq_none_iff]
  intro entry h
  have hne : entry.1 ≠ url := by simpa [others] using (List.mem_filter.1 h).2
  simpa using hne.symm

theorem lookup_others_ne (store : Store) {url other : Url} (h : other ≠ url) :
    (store.others url).lookup other = store.get? other := by
  unfold others get?
  induction store.entries with
  | nil => rfl
  | cons entry rest ih =>
    obtain ⟨key, document⟩ := entry
    by_cases hk : key = url
    · have hne : (other == key) = false := by simpa [hk] using h
      rw [List.filter_cons_of_neg (by simpa using hk), List.lookup_cons, hne]
      exact ih
    · rw [List.filter_cons_of_pos (by simpa using hk), List.lookup_cons, List.lookup_cons, ih]

@[simp] theorem get?_insert_self (store : Store) (url : Url) (document : Document) :
    (store.insert url document).get? url = some document := by
  simp [get?, insert]

@[simp] theorem get?_insert_ne (store : Store) {url other : Url} (document : Document)
    (h : other ≠ url) : (store.insert url document).get? other = store.get? other := by
  have hne : (other == url) = false := by simpa using h
  simp only [get?, insert, List.lookup_cons, hne]
  exact store.lookup_others_ne h

@[simp] theorem get?_erase_self (store : Store) (url : Url) :
    (store.erase url).get? url = none :=
  store.lookup_others_self url

@[simp] theorem get?_erase_ne (store : Store) {url other : Url} (h : other ≠ url) :
    (store.erase url).get? other = store.get? other :=
  store.lookup_others_ne h

end Store

end Signpost
