import Signpost.Proofs.Document.Calls
import Signpost.Proofs.Text.Lines

/-!
# Shared stores, and snapshots that outlast them

On a shelf there may be many stores, each with many handles. What a store holds is what its own
calls have left, **through whatever handle they were made**: that is an invariant of all stores
of the shelf at once (`Signpost.Shelf.Faithful`). A call touches the store at one address, and
only its history; a new handle touches no store at all.

Snapshots are values. What was taken stays as it was, wherever the run goes
(`Signpost.Shelf.Run.taken_isPrefix`).

`Signpost.Shelf.Serves` collects what this means to the holder of a handle, and
`Signpost.Shelf.Run.serves` says that every holder is served so, at every moment.
-/

namespace Signpost

namespace Shelf

/-! ### Runs -/

/-- **What may happen on a shelf**: stores are created, handles are cloned, and calls are made
through any handle. The calls are recorded, each with its handle. -/
inductive Run (start : Shelf) : List (Nat × Call) → Shelf → Prop
  /-- Nothing has happened. -/
  | start : Run start [] start
  /-- A store is created. -/
  | created {history : List (Nat × Call)} {shelf : Shelf} (before : Run start history shelf) :
    Run start history shelf.create
  /-- A handle is cloned. -/
  | cloned {history : List (Nat × Call)} {shelf : Shelf} (before : Run start history shelf)
      (handle : Nat) : Run start history (shelf.clone handle)
  /-- A call is made. -/
  | called {history : List (Nat × Call)} {shelf shelf' : Shelf} {handle : Nat} {call : Call}
      {answer : Answer} (before : Run start history shelf)
      (hcall : shelf.call handle call = some (shelf', answer)) :
    Run start (history ++ [(handle, call)]) shelf'

/-- The calls that have reached the store at an address, through whatever handle. -/
def callsAt (shelf : Shelf) (address : Nat) (history : List (Nat × Call)) : List Call :=
  (history.filter fun entry => shelf.handles[entry.1]? = some address).map Prod.snd

/-- **What a call does on a shelf.** -/
theorem call_eq_some_iff {shelf shelf' : Shelf} {handle : Nat} {call : Call} {answer : Answer} :
    shelf.call handle call = some (shelf', answer) ↔
      ∃ address store, shelf.handles[handle]? = some address ∧
        shelf.stores[address]? = some store ∧ answer = (store.call call).2 ∧
        shelf' = (shelf.put address (store.call call).1).keep answer.taken? := by
  simp only [Shelf.call, Option.bind_eq_bind, Option.bind_eq_some_iff, Option.some_inj,
    Prod.mk.injEq]
  constructor
  · rintro ⟨address, haddress, store, hstore, rfl, rfl⟩
    exact ⟨address, store, haddress, hstore, rfl, rfl⟩
  · rintro ⟨address, store, haddress, hstore, rfl, rfl⟩
    exact ⟨address, haddress, store, hstore, rfl, rfl⟩

theorem callsAt_concat_self {shelf : Shelf} {address handle : Nat}
    (h : shelf.handles[handle]? = some address) (history : List (Nat × Call)) (call : Call) :
    shelf.callsAt address (history ++ [(handle, call)]) =
      shelf.callsAt address history ++ [call] := by
  simp [callsAt, h]

theorem callsAt_concat_ne {shelf : Shelf} {address handle : Nat}
    (h : shelf.handles[handle]? ≠ some address) (history : List (Nat × Call)) (call : Call) :
    shelf.callsAt address (history ++ [(handle, call)]) = shelf.callsAt address history := by
  simp [callsAt, h]

/-- No call has reached a store that is not there. -/
theorem callsAt_length (shelf : Shelf) (history : List (Nat × Call)) :
    shelf.callsAt shelf.stores.length history = [] := by
  rw [callsAt, List.map_eq_nil_iff, List.filter_eq_nil_iff]
  intro entry _ h
  have hlt := shelf.lt_length _ (List.mem_of_getElem? (of_decide_eq_true h))
  exact Nat.lt_irrefl _ hlt

/-- **Every store holds what its calls have left.** The calls were made through handles that
there are. -/
structure Faithful (shelf : Shelf) (history : List (Nat × Call)) : Prop where
  lt_length : ∀ entry ∈ history, entry.1 < shelf.handles.length
  toldBy : ∀ (address : Nat) (store : Store), shelf.stores[address]? = some store →
    store.ToldBy (shelf.callsAt address history)

namespace Faithful

variable {shelf shelf' : Shelf} {history : List (Nat × Call)}

theorem empty : Shelf.empty.Faithful [] where
  lt_length entry h := absurd h List.not_mem_nil
  toldBy address store h := by simp [Shelf.empty] at h

/-- With more handles, the calls that have reached a store are the same. -/
theorem callsAt_eq (h : shelf.Faithful history) {more : List Nat}
    (hhandles : shelf'.handles = shelf.handles ++ more) (address : Nat) :
    shelf'.callsAt address history = shelf.callsAt address history := by
  rw [callsAt, callsAt]
  congr 1
  refine List.filter_congr fun entry hentry => ?_
  rw [hhandles, List.getElem?_append_left (h.lt_length entry hentry)]

theorem lt_length_of_append (h : shelf.Faithful history) {more : List Nat}
    (hhandles : shelf'.handles = shelf.handles ++ more) :
    ∀ entry ∈ history, entry.1 < shelf'.handles.length := by
  intro entry hentry
  rw [hhandles, List.length_append]
  exact Nat.lt_add_right _ (h.lt_length entry hentry)

theorem create (h : shelf.Faithful history) : shelf.create.Faithful history where
  lt_length := h.lt_length_of_append rfl
  toldBy address store hstore := by
    rw [h.callsAt_eq rfl address]
    rcases Nat.lt_or_ge address shelf.stores.length with hlt | hge
    · refine h.toldBy address store ?_
      rwa [Shelf.create, List.getElem?_append_left hlt] at hstore
    · -- the new store is empty, and no call has reached it
      rw [Shelf.create, List.getElem?_append_right hge, List.getElem?_singleton] at hstore
      split at hstore
      · have haddress : address = shelf.stores.length := by omega
        rw [haddress, callsAt_length, ← Option.some_inj.1 hstore]
        exact Store.toldBy_empty
      · cases hstore

theorem clone (h : shelf.Faithful history) (handle : Nat) :
    (shelf.clone handle).Faithful history where
  lt_length := h.lt_length_of_append rfl
  toldBy address store hstore := by
    rw [h.callsAt_eq rfl address]
    exact h.toldBy address store hstore

/-- **One call keeps every store and its calls together.** -/
theorem call (h : shelf.Faithful history) {handle : Nat} {call : Call} {answer : Answer}
    (hcall : shelf.call handle call = some (shelf', answer)) :
    shelf'.Faithful (history ++ [(handle, call)]) := by
  obtain ⟨address, store, haddress, hstore, -, rfl⟩ := call_eq_some_iff.1 hcall
  refine ⟨fun entry hentry => ?_, fun other store' hstore' => ?_⟩
  · rcases List.mem_append.1 hentry with hentry | hentry
    · exact h.lt_length entry hentry
    · rw [List.mem_singleton.1 hentry]
      exact (List.getElem?_eq_some_iff.1 haddress).1
  · change (shelf.stores.set address (store.call call).1)[other]? = some store' at hstore'
    change store'.ToldBy (shelf.callsAt other (history ++ [(handle, call)]))
    by_cases hother : address = other
    · subst hother
      rw [List.getElem?_set_self (List.getElem?_eq_some_iff.1 hstore).1, Option.some_inj] at hstore'
      rw [callsAt_concat_self haddress, ← hstore']
      exact (h.toldBy address store hstore).call call
    · rw [List.getElem?_set_ne hother] at hstore'
      have hne : shelf.handles[handle]? ≠ some other := by
        rw [haddress]
        exact fun heq => hother (Option.some_inj.1 heq)
      rw [callsAt_concat_ne hne]
      exact h.toldBy other store' hstore'

end Faithful

namespace Run

variable {start shelf : Shelf} {history : List (Nat × Call)}

/-- **Every store of a run holds what its calls have left.** -/
theorem faithful (h : Run .empty history shelf) : shelf.Faithful history := by
  induction h with
  | start => exact .empty
  | created _ ih => exact ih.create
  | cloned _ handle ih => exact ih.clone handle
  | called _ hcall ih => exact ih.call hcall

/-- Handles stay as they are. -/
theorem handles_isPrefix (h : Run start history shelf) : start.handles <+: shelf.handles := by
  induction h with
  | start => exact List.prefix_rfl
  | created _ ih => exact ih.trans (List.prefix_append _ _)
  | cloned _ _ ih => exact ih.trans (List.prefix_append _ _)
  | called _ hcall ih =>
    obtain ⟨address, store, -, -, -, rfl⟩ := call_eq_some_iff.1 hcall
    exact ih

/-- **Snapshots that were taken stay as they were.** -/
theorem taken_isPrefix (h : Run start history shelf) : start.taken <+: shelf.taken := by
  induction h with
  | start => exact List.prefix_rfl
  | created _ ih => exact ih
  | cloned _ _ ih => exact ih
  | called _ hcall ih =>
    obtain ⟨address, store, -, -, -, rfl⟩ := call_eq_some_iff.1 hcall
    exact ih.trans (List.prefix_append _ _)

end Run

/-! ### What is promised of a store -/

theorem put_self {shelf : Shelf} {address : Nat} {store : Store}
    (h : shelf.stores[address]? = some store) : shelf.put address store = shelf := by
  obtain ⟨hlt, rfl⟩ := List.getElem?_eq_some_iff.1 h
  simp [put]

theorem keep_none (shelf : Shelf) : shelf.keep none = shelf := by
  simp [keep]

/-- The document that is open under a URL in the store to which a handle leads. -/
def document? (shelf : Shelf) (handle : Nat) (url : Url) : Option Document :=
  (shelf.store? handle).bind (·.get? url)

/-- **What is promised to the holder of a handle**, when `calls` are those that have reached its
store. -/
structure Serves (shelf : Shelf) (handle : Nat) (calls : List Call) : Prop where
  /-- Every call is answered. -/
  answers : ∀ call, (shelf.call handle call).isSome
  /-- A clone leads to the same store ever after. -/
  shares : ∀ more later, Run (shelf.clone handle) more later →
    later.store? shelf.handles.length = later.store? handle
  /-- What is read is what the calls have left, and reading changes no store. -/
  reads : ∀ url, ∃ current : Option Document, (∀ d, current = some d ↔ Left calls url d) ∧
    shelf.call handle (.contains url) = some (shelf, .contains current.isSome) ∧
    shelf.call handle (.text url) = some (shelf, .text (current.map Document.text)) ∧
    shelf.call handle (.snapshot url) = some (shelf.keep (current.map (Snapshot.mk url)),
      .snapshot (current.map (Snapshot.mk url)))
  /-- A document that is not open cannot be changed, and nothing else is. -/
  refuses : ∀ url text version, (∀ d, ¬Left calls url d) →
    shelf.call handle (.update url text version) =
      some (shelf, .refused (.documentNotFound url.display))
  /-- A call about one URL leaves the documents under all others alone, in every store. -/
  others : ∀ call shelf' answer, shelf.call handle call = some (shelf', answer) →
    ∀ url ≠ call.url, ∀ other, shelf'.document? other url = shelf.document? other url
  /-- There are as many documents as URLs with one, each with the offsets of its own lines. -/
  counts : ∃ store, shelf.store? handle = some store ∧
    Set.encard {url | ∃ d, Left calls url d} = store.count ∧
    ∀ entry ∈ store.entries, entry.2.starts = entry.2.text.lineStarts
  /-- A snapshot answers with the lines of the text at the moment when it was taken, whatever
  happens later. -/
  keeps : ∀ url d, Left calls url d → ∃ shelf',
    shelf.call handle (.snapshot url) = some (shelf', .snapshot (some ⟨url, d⟩)) ∧
    ∀ more later, Run shelf' more later → ∃ s, later.taken[shelf.taken.length]? = some s ∧
      s.document = d ∧ ∀ n, s.source.line n = d.text.rows[n]?

section

variable {shelf : Shelf} {handle address : Nat} {store : Store}
  (haddress : shelf.handles[handle]? = some address) (hstore : shelf.stores[address]? = some store)

include haddress hstore

theorem store?_eq : shelf.store? handle = some store := by
  rw [store?, haddress, Option.bind_some, hstore]

theorem call_eq (call : Call) :
    shelf.call handle call = some ((shelf.put address (store.call call).1).keep
      (store.call call).2.taken?, (store.call call).2) :=
  call_eq_some_iff.2 ⟨address, store, haddress, hstore, rfl, rfl⟩

/-- A call that leaves its store alone leaves all stores alone. -/
theorem call_of_fst_eq {call : Call} (h : (store.call call).1 = store) :
    shelf.call handle call =
      some (shelf.keep (store.call call).2.taken?, (store.call call).2) := by
  rw [call_eq haddress hstore, h, put_self hstore]

theorem call_contains (url : Url) :
    shelf.call handle (.contains url) = some (shelf, .contains (store.get? url).isSome) := by
  rw [call_of_fst_eq haddress hstore rfl]
  exact congrArg some (Prod.ext shelf.keep_none rfl)

theorem call_text (url : Url) :
    shelf.call handle (.text url) = some (shelf, .text ((store.get? url).map Document.text)) := by
  rw [call_of_fst_eq haddress hstore rfl]
  exact congrArg some (Prod.ext shelf.keep_none rfl)

theorem call_snapshot (url : Url) :
    shelf.call handle (.snapshot url) = some (shelf.keep ((store.get? url).map (Snapshot.mk url)),
      .snapshot ((store.get? url).map (Snapshot.mk url))) := by
  rw [call_of_fst_eq haddress hstore rfl]
  rfl

theorem call_update_of_none {url : Url} (h : store.get? url = none) (text : Text)
    (version : Option Int) :
    shelf.call handle (.update url text version) =
      some (shelf, .refused (.documentNotFound url.display)) := by
  have hcall : store.call (.update url text version) =
      (store, .refused (.documentNotFound url.display)) := by
    simp only [Store.call, Store.update, h]
  rw [call_of_fst_eq haddress hstore (by rw [hcall]), hcall]
  exact congrArg some (Prod.ext shelf.keep_none rfl)

/-- A call about one URL leaves the documents under all others alone. -/
theorem document?_call_of_ne {call : Call} {url : Url} (h : url ≠ call.url) {shelf' : Shelf}
    {answer : Answer} (hcall : shelf.call handle call = some (shelf', answer)) (other : Nat) :
    shelf'.document? other url = shelf.document? other url := by
  rw [call_eq haddress hstore, Option.some_inj, Prod.mk.injEq] at hcall
  obtain ⟨rfl, -⟩ := hcall
  change (shelf.handles[other]?.bind fun a =>
    (shelf.stores.set address (store.call call).1)[a]?).bind _ = _
  rw [document?, store?]
  rcases shelf.handles[other]? with _ | place
  · rfl
  · rw [Option.bind_some, Option.bind_some]
    by_cases hplace : address = place
    · subst hplace
      rw [List.getElem?_set_self (List.getElem?_eq_some_iff.1 hstore).1, hstore]
      exact Store.get?_call_of_ne h
    · rw [List.getElem?_set_ne hplace]

omit hstore in
/-- A clone leads to the same store ever after. -/
theorem store?_clone {more : List (Nat × Call)} {later : Shelf}
    (h : Run (shelf.clone handle) more later) :
    later.store? shelf.handles.length = later.store? handle := by
  have hlt : handle < shelf.handles.length := (List.getElem?_eq_some_iff.1 haddress).1
  obtain ⟨rest, hrest⟩ := h.handles_isPrefix
  have hhandles : later.handles = shelf.handles ++ address :: rest := by
    change shelf.handles ++ shelf.handles[handle]?.toList ++ rest = later.handles at hrest
    rw [← hrest, haddress, Option.toList_some, List.append_assoc, List.singleton_append]
  have hclone : later.handles[shelf.handles.length]? = some address := by
    rw [hhandles, List.getElem?_append_right (Nat.le_refl _), Nat.sub_self, List.getElem?_cons_zero]
  have hhandle : later.handles[handle]? = some address := by
    rw [hhandles, List.getElem?_append_left hlt, haddress]
  rw [store?, store?, hclone, hhandle]

/-- What was taken at one moment is there ever after. -/
theorem getElem?_taken {url : Url} {d : Document} (h : store.get? url = some d) :
    ∃ shelf', shelf.call handle (.snapshot url) = some (shelf', .snapshot (some ⟨url, d⟩)) ∧
      ∀ more later, Run shelf' more later → later.taken[shelf.taken.length]? = some ⟨url, d⟩ := by
  refine ⟨shelf.keep (some ⟨url, d⟩), ?_, fun more later hrun => ?_⟩
  · rw [call_snapshot haddress hstore, h]
    rfl
  · obtain ⟨rest, hrest⟩ := hrun.taken_isPrefix
    rw [← hrest, keep]
    simp

end

/-- **A store that is reached through many handles is a finite map of what its calls have left,
and its snapshots do not change.** Through every handle, at every moment of every run. -/
theorem Run.serves {history : List (Nat × Call)} {shelf : Shelf} (h : Run .empty history shelf)
    {handle address : Nat} (haddress : shelf.handles[handle]? = some address) :
    shelf.Serves handle (shelf.callsAt address history) := by
  have hlt : address < shelf.stores.length :=
    shelf.lt_length address (List.mem_of_getElem? haddress)
  obtain ⟨store, hstore⟩ : ∃ store, shelf.stores[address]? = some store :=
    ⟨_, List.getElem?_eq_getElem hlt⟩
  have htold := h.faithful.toldBy address store hstore
  constructor
  · intro call
    rw [call_eq haddress hstore]
    rfl
  · intro more later hrun
    exact store?_clone haddress hrun
  · intro url
    exact ⟨store.get? url, htold url, call_contains haddress hstore url,
      call_text haddress hstore url, call_snapshot haddress hstore url⟩
  · intro url text version hnone
    refine call_update_of_none haddress hstore ?_ text version
    exact Option.eq_none_iff_forall_ne_some.2 fun d hd => hnone d ((htold url d).1 hd)
  · intro call shelf' answer hcall url hne other
    exact document?_call_of_ne haddress hstore hne hcall other
  · refine ⟨store, store?_eq haddress hstore, ?_, fun entry _ => entry.2.starts_eq⟩
    simp only [← htold _ _]
    exact store.encard_eq_count
  · intro url d hd
    obtain ⟨shelf', hcall, htaken⟩ := getElem?_taken haddress hstore ((htold url d).2 hd)
    refine ⟨shelf', hcall, fun more later hrun => ⟨⟨url, d⟩, htaken more later hrun, rfl, ?_⟩⟩
    intro n
    rw [Snapshot.line_source]
    exact Text.lineAt?_eq_rows d.text n

/-- A document is opened through a clone, changed through the first handle without a version,
kept as a snapshot through the clone, and closed through the first handle. -/
theorem Run.serves_clone :
    let url : Url := ⟨Url.fileScheme, some .empty, "/a.js".toList, none, none⟩
    let history := [(1, .insert url "a".toList (some "js") (some 3)),
      (0, .update url "b\r\nc".toList none), (1, .snapshot url), (0, .remove url)]
    ∃ shelf, Run .empty history shelf ∧ shelf.handles[1]? = some 0 ∧
      shelf.Serves 1 (history.map Prod.snd) := by
  intro url history
  have hclone : Run .empty [] (Shelf.empty.create.clone 0) := .cloned (.created .start) 0
  obtain ⟨shelf, hrun, hhandle, hcalls⟩ : ∃ shelf, Run .empty history shelf ∧
      shelf.handles[1]? = some 0 ∧ shelf.callsAt 0 history = history.map Prod.snd :=
    ⟨_, .called (.called (.called (.called hclone rfl) rfl) rfl) rfl, rfl, rfl⟩
  refine ⟨shelf, hrun, hhandle, ?_⟩
  rw [← hcalls]
  exact hrun.serves hhandle

end Shelf

end Signpost
