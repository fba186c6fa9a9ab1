import Mathlib.Data.List.Basic
import Mathlib.Data.List.Induction
import Signpost.Settings.Basic

/-!
# The last layer counts

Layers are merged field by field, so what happens to one field has nothing to do with what happens
to another. A field (`Signpost.Layer.Field`) is therefore taken as a value here, and merging is
described by one equation for all fields (`Signpost.Layer.setting?_merge`): an upper layer counts
where it sets the field, and a lower one where it does not. A stack of layers grows at its top, and
by induction on it **the value of a field is that of the last layer that sets it**
(`Signpost.Layer.setting?_mergeAll_eq_some_iff`).
-/

namespace Signpost

/-! ### Fields -/

namespace Layer

/-- A field of the settings. -/
inductive Field where
  /-- Whether includes are resolved. -/
  | includes
  /-- Whether worker constructions are resolved. -/
  | workers
  /-- The languages whose documents are pages. -/
  | pageLanguages
  /-- The languages whose documents are scripts. -/
  | scriptLanguages
  /-- How many lines the walk back to a `new` goes. -/
  | backwardLines
deriving DecidableEq, Repr

/-- What a field can be set to. -/
@[reducible] def Field.Value : Field → Type
  | includes => Bool
  | workers => Bool
  | pageLanguages => List String
  | scriptLanguages => List String
  | backwardLines => Nat

/-- What a layer sets a field to, if it sets it. -/
def get? (layer : Layer) : (field : Field) → Option field.Value
  | .includes => layer.includes
  | .workers => layer.workers
  | .pageLanguages => layer.pageLanguages
  | .scriptLanguages => layer.scriptLanguages
  | .backwardLines => layer.backwardLines

@[simp] theorem get?_stackedOn (upper lower : Layer) (field : Field) :
    (upper.stackedOn lower).get? field = (upper.get? field).or (lower.get? field) := by
  cases field <;> rfl

end Layer

namespace Settings

/-- The value of a field. -/
def get (settings : Settings) : (field : Layer.Field) → field.Value
  | .includes => settings.includes
  | .workers => settings.workers
  | .pageLanguages => settings.pageLanguages
  | .scriptLanguages => settings.scriptLanguages
  | .backwardLines => settings.backwardLines

/-- **Settings are known by their fields.** -/
theorem ext_get {s t : Settings} (h : ∀ field, s.get field = t.get field) : s = t := by
  obtain ⟨includes, workers, pageLanguages, scriptLanguages, backwardLines⟩ := s
  obtain rfl := h .includes
  obtain rfl := h .workers
  obtain rfl := h .pageLanguages
  obtain rfl := h .scriptLanguages
  obtain rfl := h .backwardLines
  rfl

@[simp] theorem get_ofLayer (layer : Layer) (field : Layer.Field) :
    (ofLayer layer).get field = (layer.get? field).getD (default.get field) := by
  cases field <;> rfl

/-- The lowest layer sets every field. -/
@[simp] theorem get?_default (field : Layer.Field) :
    Layer.default.get? field = some (default.get field) := by
  cases field <;> rfl

end Settings

/-! ### Layers -/

namespace Layer

/-- What a layer that may be missing sets a field to. -/
def setting? (layer : Option Layer) (field : Field) : Option field.Value :=
  layer.bind fun layer => layer.get? field

/-- **The upper layer counts where it sets a field**, and the lower one where it does not. -/
@[simp] theorem setting?_merge (lower upper : Option Layer) (field : Field) :
    setting? (merge lower upper) field = (setting? upper field).or (setting? lower field) := by
  cases lower <;> cases upper <;> simp [merge, setting?]

theorem merge_eq_none_iff {lower upper : Option Layer} :
    merge lower upper = none ↔ lower = none ∧ upper = none := by
  cases lower <;> cases upper <;> simp [merge]

theorem mergeAll_concat (layers : List (Option Layer)) (layer : Option Layer) :
    mergeAll (layers ++ [layer]) = merge (mergeAll layers) layer :=
  List.foldl_concat merge none layer layers

/-- A stack is missing if all its layers are. -/
theorem mergeAll_eq_none_iff (layers : List (Option Layer)) :
    mergeAll layers = none ↔ ∀ layer ∈ layers, layer = none := by
  induction layers using List.reverseRecOn with
  | nil => simp [mergeAll]
  | append_singleton layers layer ih =>
    rw [mergeAll_concat, merge_eq_none_iff, ih, List.forall_mem_append, List.forall_mem_singleton]

/-- **The last layer of a stack that sets a field** sets it to a value. -/
def LastSets (layers : List (Option Layer)) (field : Field) (value : field.Value) : Prop :=
  ∃ below layer above, layers = below ++ layer :: above ∧ setting? layer field = some value ∧
    ∀ higher ∈ above, setting? higher field = none

/-- The last layer of a stack is on top of it, or on top of what is below. -/
theorem lastSets_concat_iff {layers : List (Option Layer)} {top : Option Layer} {field : Field}
    {value : field.Value} :
    LastSets (layers ++ [top]) field value ↔
      setting? top field = some value ∨
        setting? top field = none ∧ LastSets layers field value := by
  constructor
  · rintro ⟨below, layer, above, hsplit, hlayer, habove⟩
    rcases above.eq_nil_or_concat' with rfl | ⟨above, last, rfl⟩
    · obtain ⟨-, rfl⟩ := List.append_singleton_inj.1 hsplit
      exact Or.inl hlayer
    · rw [← List.cons_append, ← List.append_assoc] at hsplit
      obtain ⟨rfl, rfl⟩ := List.append_singleton_inj.1 hsplit
      refine Or.inr ⟨habove _ (by simp), below, layer, above, rfl, hlayer, fun higher hhigher => ?_⟩
      exact habove higher (List.mem_append_left _ hhigher)
  · rintro (htop | ⟨htop, below, layer, above, rfl, hlayer, habove⟩)
    · exact ⟨layers, top, [], rfl, htop, by simp⟩
    · refine ⟨below, layer, above ++ [top], by simp, hlayer, fun higher hhigher => ?_⟩
      rcases List.mem_append.1 hhigher with hhigher | hhigher
      · exact habove higher hhigher
      · rw [List.mem_singleton.1 hhigher, htop]

/-- **A stack sets a field to what its last layer that sets it does.** -/
theorem setting?_mergeAll_eq_some_iff (layers : List (Option Layer)) (field : Field)
    (value : field.Value) :
    setting? (mergeAll layers) field = some value ↔ LastSets layers field value := by
  induction layers using List.reverseRecOn with
  | nil => simp [mergeAll, setting?, LastSets]
  | append_singleton layers top ih =>
    rw [mergeAll_concat, setting?_merge, Option.or_eq_some_iff, ih, lastSets_concat_iff]

end Layer

end Signpost
