import Mathlib.Data.Set.Card
import Signpost.Document.Shelf

/-!
# What a store holds is what its calls have left

What a store holds under a URL can be told from the calls alone (`Signpost.Left`): there was a
last call that opened the document, and none since has closed it; its text is that of the last
call that gave one, its language that of the call that opened it, and its version the last one
that was given.

That is a statement about the past, and a store knows nothing of the past. The two meet in what
one call leaves behind (`Signpost.Call.Leaves`), which is said once for the calls
(`Signpost.left_concat`) and once for the store (`Signpost.Store.get?_call`). So one call keeps
them together: `Signpost.Store.ToldBy.call`.
-/

namespace Signpost

/-! ### Calls -/

namespace Call

/-- A call that opens or closes the document under a URL: what was said of the document before
does not matter any more. -/
def Settles (url : Url) : Call → Prop
  | insert other _ _ _ => other = url
  | remove other => other = url
  | _ => False

/-- The text that a call gives to the document that is open under a URL. -/
def newText? (url : Url) : Call → Option Text
  | update other new _ => if other = url then some new else none
  | _ => none

/-- The version that a call gives to the document that is open under a URL. -/
def newVersion? (url : Url) : Call → Option Int
  | update other _ version => if other = url then version else none
  | _ => none

/-- The document that is open under a URL, with what a call gives to it. -/
def amend (call : Call) (url : Url) (d : Document) : Document :=
  .ofText ((call.newText? url).getD d.text) d.language ((call.newVersion? url).or d.version)

/-- **What one call leaves under a URL**, where a document was that `was` tells of. -/
inductive Leaves (url : Url) (was : Document → Prop) : Call → Document → Prop
  /-- It opens a document. -/
  | opened (text : Text) (language : Option String) (version : Option Int) :
    Leaves url was (.insert url text language version) (.ofText text language version)
  /-- It leaves the document open, perhaps with another text. -/
  | kept {call : Call} {d : Document} (hopen : ¬call.Settles url) (hwas : was d) :
    Leaves url was call (call.amend url d)

theorem text_amend (call : Call) (url : Url) (d : Document) :
    (call.amend url d).text = (call.newText? url).getD d.text := rfl

theorem version_amend (call : Call) (url : Url) (d : Document) :
    (call.amend url d).version = (call.newVersion? url).or d.version := rfl

section

variable {url : Url} {was : Document → Prop} {d : Document}

/-- A call that gives nothing leaves what was there. -/
theorem leaves_iff_of_aside {call : Call} (hopen : ¬call.Settles url)
    (htext : call.newText? url = none) (hversion : call.newVersion? url = none) :
    call.Leaves url was d ↔ was d := by
  have hamend : ∀ d, call.amend url d = d := by
    intro d
    refine Document.ext ?_ rfl ?_
    · rw [text_amend, htext, Option.getD_none]
    · rw [version_amend, hversion, Option.none_or]
  constructor
  · rintro (_ | ⟨-, hwas⟩)
    · exact absurd rfl hopen
    · rwa [hamend]
  · intro hwas
    rw [← hamend d]
    exact .kept hopen hwas

/-- A call about another URL leaves what was there. -/
theorem leaves_iff_of_ne {call : Call} (h : url ≠ call.url) :
    call.Leaves url was d ↔ was d := by
  refine leaves_iff_of_aside ?_ ?_ ?_
  · cases call with
    | insert other => exact fun hother => h hother.symm
    | remove other => exact fun hother => h hother.symm
    | update | contains | text | snapshot => exact id
  · cases call with
    | update other => exact if_neg fun hother => h hother.symm
    | insert | remove | contains | text | snapshot => rfl
  · cases call with
    | update other => exact if_neg fun hother => h hother.symm
    | insert | remove | contains | text | snapshot => rfl

theorem leaves_insert_iff {text : Text} {language : Option String} {version : Option Int} :
    (insert url text language version).Leaves url was d ↔ d = .ofText text language version := by
  constructor
  · rintro (_ | ⟨hopen, -⟩)
    · rfl
    · exact absurd rfl hopen
  · rintro rfl
    exact .opened text language version

theorem leaves_update_iff {text : Text} {version : Option Int} :
    (update url text version).Leaves url was d ↔ ∃ e, was e ∧ e.revise text version = d := by
  have hamend : ∀ e : Document, (update url text version).amend url e = e.revise text version := by
    intro e
    simp only [amend, newText?, newVersion?, if_pos, Option.getD_some, Document.revise,
      Document.ofText]
  constructor
  · rintro (_ | ⟨-, hwas⟩)
    exact ⟨_, hwas, (hamend _).symm⟩
  · rintro ⟨e, hwas, rfl⟩
    rw [← hamend e]
    exact .kept id hwas

theorem not_leaves_remove : ¬(remove url).Leaves url was d := by
  rintro (_ | ⟨hopen, -⟩)
  exact hopen rfl

end

end Call

/-- The last thing that some calls give. -/
def latest {α : Type} (given : Call → Option α) (calls : List Call) : Option α :=
  (calls.filterMap given).getLast?

theorem latest_concat {α : Type} (given : Call → Option α) (calls : List Call)
    (call : Call) : latest given (calls ++ [call]) = (given call).or (latest given calls) := by
  rw [latest, List.filterMap_append, List.getLast?_append, latest]
  congr 1
  cases h : given call <;> simp [h]

/-- **The document that some calls leave open under a URL.** Some call opened it and none after
that has opened or closed one there; the text and the version are the last ones given by that
call or later. -/
def Left (calls : List Call) (url : Url) (d : Document) : Prop :=
  ∃ before text language version after,
    calls = before ++ .insert url text language version :: after ∧
    (∀ call ∈ after, ¬call.Settles url) ∧
    d.text = (latest (Call.newText? url) after).getD text ∧
    d.language = language ∧
    d.version = (latest (Call.newVersion? url) after).or version

theorem not_left_nil (url : Url) (d : Document) : ¬Left [] url d := by
  rintro ⟨before, text, language, version, after, h, -⟩
  simp at h

/-- **One more call**, seen from what is said. -/
theorem left_concat {calls : List Call} {call : Call} {url : Url} {d : Document} :
    Left (calls ++ [call]) url d ↔ call.Leaves url (Left calls url) d := by
  constructor
  · rintro ⟨before, text, language, version, after, hcalls, hopen, htext, hlanguage, hversion⟩
    rcases List.eq_nil_or_concat after with rfl | ⟨after, last, rfl⟩
    · -- the call that opened the document is the last one
      obtain ⟨rfl, rfl⟩ := List.append_inj' hcalls rfl |>.imp_right List.singleton_inj.1
      have hd : d = .ofText text language version := Document.ext htext hlanguage hversion
      rw [hd]
      exact .opened text language version
    · rw [List.concat_eq_append] at hcalls hopen htext hversion
      rw [← List.cons_append, ← List.append_assoc] at hcalls
      obtain ⟨hfront, hlast⟩ := List.append_inj' hcalls rfl
      obtain rfl := List.singleton_inj.1 hlast
      let was : Document := .ofText ((latest (Call.newText? url) after).getD text) language
        ((latest (Call.newVersion? url) after).or version)
      have hwas : Left calls url was := ⟨before, text, language, version, after, hfront,
        fun other hother => hopen other (List.mem_append_left _ hother), rfl, rfl, rfl⟩
      have hd : d = call.amend url was := by
        refine Document.ext ?_ hlanguage ?_
        · rw [htext, latest_concat, Option.getD_or]
          rfl
        · rw [hversion, latest_concat, Option.or_assoc]
          rfl
      rw [hd]
      exact .kept (hopen call (List.mem_append_right _ (List.mem_singleton_self _))) hwas
  · rintro (⟨text, language, version⟩ | ⟨hopen, before, text, language, version, after, rfl,
      hrest, htext, hlanguage, hversion⟩)
    · exact ⟨calls, text, language, version, [], rfl, by simp, rfl, rfl, rfl⟩
    · refine ⟨before, text, language, version, after ++ [call], by simp, ?_, ?_, hlanguage, ?_⟩
      · intro other hother
        rcases List.mem_append.1 hother with hother | hother
        · exact hrest other hother
        · rwa [List.mem_singleton.1 hother]
      · rw [latest_concat, Option.getD_or, ← htext]
        rfl
      · rw [latest_concat, Option.or_assoc, ← hversion]
        rfl

/-! ### One store -/

namespace Store

/-- A call about one URL leaves the documents under all others alone. -/
theorem get?_call_of_ne {store : Store} {call : Call} {url : Url} (h : url ≠ call.url) :
    (store.call call).1.get? url = store.get? url := by
  cases call with
  | insert other text language version => exact store.get?_insert_ne _ h
  | update other text version =>
    simp only [Store.call, update]
    rcases store.get? other with _ | d
    · rfl
    · exact store.get?_insert_ne _ h
  | remove other => exact store.get?_erase_ne h
  | contains | text | snapshot => rfl

/-- **One more call**, seen from what the store holds. -/
theorem get?_call {store : Store} {call : Call} {url : Url} {d : Document} :
    (store.call call).1.get? url = some d ↔ call.Leaves url (store.get? url = some ·) d := by
  by_cases h : url = call.url
  · cases call with
    | insert other text language version =>
      obtain rfl : url = other := h
      rw [Call.leaves_insert_iff, Store.call, get?_insert_self, Option.some_inj, eq_comm]
    | update other text version =>
      obtain rfl : url = other := h
      rw [Call.leaves_update_iff, Store.call, update]
      rcases hget : store.get? url with _ | e
      · simp [hget]
      · simp
    | remove other =>
      obtain rfl : url = other := h
      simp [Store.call, Call.not_leaves_remove]
    | contains | text | snapshot =>
      rw [Call.leaves_iff_of_aside id rfl rfl, Store.call]
  · rw [get?_call_of_ne h, Call.leaves_iff_of_ne h]

/-- Some calls tell what a store holds. -/
def ToldBy (store : Store) (calls : List Call) : Prop :=
  ∀ url d, store.get? url = some d ↔ Left calls url d

theorem toldBy_empty : empty.ToldBy [] := by
  intro url d
  simpa using not_left_nil url d

/-- **One call keeps what the store holds and what is told of it together.** -/
theorem ToldBy.call {store : Store} {calls : List Call} (h : store.ToldBy calls) (call : Call) :
    (store.call call).1.ToldBy (calls ++ [call]) := by
  intro url d
  have hwas : (store.get? url = some ·) = Left calls url := funext fun d => propext (h url d)
  rw [get?_call, left_concat, hwas]

theorem exists_get?_iff {store : Store} {url : Url} :
    (∃ d, store.get? url = some d) ↔ url ∈ store.entries.map Prod.fst := by
  rw [← Option.isSome_iff_exists, ← not_iff_not, Option.not_isSome_iff_eq_none, get?,
    List.lookup_eq_none_iff, List.mem_map]
  simp only [bne_iff_ne, not_exists, not_and]
  exact forall₂_congr fun entry _ => ne_comm

/-- The number of documents is the number of URLs under which there is one. -/
theorem encard_eq_count (store : Store) :
    Set.encard {url | ∃ d, store.get? url = some d} = store.count := by
  have hurls : {url | ∃ d, store.get? url = some d} =
      ((store.entries.map Prod.fst).toFinset : Set Url) := by
    rw [List.coe_toFinset]
    exact Set.ext fun url => exists_get?_iff
  rw [hurls, Set.encard_coe_eq_coe_finsetCard, List.toFinset_card_of_nodup store.nodup,
    List.length_map, count]

end Store

end Signpost
