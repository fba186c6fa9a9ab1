import Signpost.Proofs.Settings.Merging
import Signpost.Settings.Json
import Signpost.Settings.Toml

/-!
# The keys of the fields

A layer is read from JSON and from TOML. The two readers have little in common: the one asks an
object for one member after the other, or takes the items of an array in turn, and the other goes
through the members of a document as they come and passes over what it does not know. But a field
has **one key** (`Signpost.Layer.Field.key`), and in both formats it is read from what stands under
that key, and from nothing else:

| read from | theorem |
|---|---|
| a JSON object | `Signpost.Layer.ofMembers_eq_ok_iff` |
| a JSON array, by the place of the field | `Signpost.Layer.ofItems_eq_ok_iff` |
| a TOML document | `Signpost.Layer.ofMembersOfToml_eq_ok_iff` |

Each of them says also when there is a layer at all: a single value that does not fit spoils it.
`Signpost.Layer.fields_by_key` puts the two formats side by side.
-/

namespace Signpost.Layer

open Toml (Extent Members)

namespace Field

/-- The key of a field. -/
def key : Field → String
  | includes => "htmlPartials"
  | workers => "workerUrls"
  | pageLanguages => "htmlLanguages"
  | scriptLanguages => "scriptLanguages"
  | backwardLines => "maxBackwardLines"

/-- The place of a field among the others. -/
def place : Field → Nat
  | includes => 0
  | workers => 1
  | pageLanguages => 2
  | scriptLanguages => 3
  | backwardLines => 4

/-- The value of a field, from JSON. -/
def ofJson : (field : Field) → Json → Except Fault field.Value
  | includes => truth
  | workers => truth
  | pageLanguages => strings
  | scriptLanguages => strings
  | backwardLines => count

/-- The value of a field, from TOML. -/
def ofToml : (field : Field) → Extent → Toml → Except Toml.Fault field.Value
  | includes => truthOfToml
  | workers => truthOfToml
  | pageLanguages => stringsOfToml
  | scriptLanguages => stringsOfToml
  | backwardLines => countOfToml

theorem key_injective : Function.Injective key := by
  intro field other h
  cases field <;> cases other <;> first
    | rfl
    | exact absurd h (by decide)

end Field

/-- A step succeeds with what the steps after it make of its result. -/
theorem bind_eq_ok_iff {ε α β : Type} {x : Except ε α} {f : α → Except ε β} {b : β} :
    x >>= f = .ok b ↔ ∃ a, x = .ok a ∧ f a = .ok b := by
  cases x with
  | error e => simp [bind, Except.bind]
  | ok a => simp [bind, Except.bind]

theorem map_eq_ok_iff {ε α β : Type} {x : Except ε α} {f : α → β} {b : β} :
    f <$> x = .ok b ↔ ∃ a, x = .ok a ∧ f a = b := by
  cases x with
  | error e => simp [Functor.map, Except.map]
  | ok a => simp [Functor.map, Except.map]

/-! ### JSON -/

/-- **In an object, a field is what its key says**: null or nothing leaves it open. -/
theorem ofMembers_eq_ok_iff {j : Json} {layer : Layer} :
    ofMembers j = .ok layer ↔ ∀ field : Field,
      optional field.ofJson ((j.get? field.key).getD .null) = .ok (layer.get? field) := by
  constructor
  · intro h
    obtain ⟨pageLanguages, hpage, h⟩ := bind_eq_ok_iff.1 h
    obtain ⟨includes, hincludes, h⟩ := bind_eq_ok_iff.1 h
    obtain ⟨backwardLines, hlines, h⟩ := bind_eq_ok_iff.1 h
    obtain ⟨scriptLanguages, hscript, h⟩ := bind_eq_ok_iff.1 h
    obtain ⟨workers, hworkers, h⟩ := bind_eq_ok_iff.1 h
    cases h
    rintro (_ | _ | _ | _ | _)
    exacts [hincludes, hworkers, hpage, hscript, hlines]
  · intro h
    refine bind_eq_ok_iff.2 ⟨_, h .pageLanguages, ?_⟩
    refine bind_eq_ok_iff.2 ⟨_, h .includes, ?_⟩
    refine bind_eq_ok_iff.2 ⟨_, h .backwardLines, ?_⟩
    refine bind_eq_ok_iff.2 ⟨_, h .scriptLanguages, ?_⟩
    exact bind_eq_ok_iff.2 ⟨_, h .workers, rfl⟩

theorem next_eq_ok_iff {α : Type} {seen : Nat} {items rest : List Json}
    {decode : Json → Except Fault α} {value : Option α} :
    ofItems.next seen items decode = .ok (value, rest) ↔
      ∃ item, items = item :: rest ∧ optional decode item = .ok value := by
  cases items with
  | nil => simp [ofItems.next]
  | cons item items =>
    rw [ofItems.next, map_eq_ok_iff]
    constructor
    · rintro ⟨value', hvalue, hpair⟩
      cases hpair
      exact ⟨item, rfl, hvalue⟩
    · rintro ⟨item', hitems, hvalue⟩
      cases hitems
      exact ⟨value, hvalue, rfl⟩

/-- **In an array, a field is what stands at its place**, and there are no more items than
fields. -/
theorem ofItems_eq_ok_iff {items : List Json} {layer : Layer} :
    ofItems items = .ok layer ↔ items.length = fieldCount ∧ ∀ field : Field,
      ∃ item, items[field.place]? = some item ∧
        optional field.ofJson item = .ok (layer.get? field) := by
  simp only [ofItems, bind_eq_ok_iff, Prod.exists, next_eq_ok_iff]
  constructor
  · rintro ⟨includes, _, ⟨first, rfl, hincludes⟩, workers, _, ⟨second, rfl, hworkers⟩,
      pageLanguages, _, ⟨third, rfl, hpage⟩, scriptLanguages, _, ⟨fourth, rfl, hscript⟩,
      backwardLines, rest, ⟨fifth, rfl, hlines⟩, h⟩
    split at h
    · rename_i hrest
      obtain rfl := List.isEmpty_iff.1 hrest
      cases h
      refine ⟨rfl, ?_⟩
      rintro (_ | _ | _ | _ | _)
      exacts [⟨first, rfl, hincludes⟩, ⟨second, rfl, hworkers⟩, ⟨third, rfl, hpage⟩,
        ⟨fourth, rfl, hscript⟩, ⟨fifth, rfl, hlines⟩]
    · cases h
  · rintro ⟨hlength, h⟩
    obtain ⟨first, second, third, fourth, fifth, rfl⟩ :
        ∃ first second third fourth fifth, items = [first, second, third, fourth, fifth] := by
      match items, hlength with
      | [first, second, third, fourth, fifth], _ => exact ⟨_, _, _, _, _, rfl⟩
    have hitem : ∀ (field : Field) (item : Json),
        [first, second, third, fourth, fifth][field.place]? = some item →
        optional field.ofJson item = .ok (layer.get? field) := by
      intro field item hplace
      obtain ⟨item', hplace', hvalue⟩ := h field
      rw [hplace, Option.some.injEq] at hplace'
      rwa [hplace']
    exact ⟨_, _, ⟨first, rfl, hitem .includes _ rfl⟩, _, _, ⟨second, rfl, hitem .workers _ rfl⟩,
      _, _, ⟨third, rfl, hitem .pageLanguages _ rfl⟩,
      _, _, ⟨fourth, rfl, hitem .scriptLanguages _ rfl⟩,
      _, _, ⟨fifth, rfl, hitem .backwardLines _ rfl⟩, rfl⟩

/-! ### TOML -/

/-- A layer with one field set. -/
def set (layer : Layer) : (field : Field) → field.Value → Layer
  | .includes, value => { layer with includes := some value }
  | .workers, value => { layer with workers := some value }
  | .pageLanguages, value => { layer with pageLanguages := some value }
  | .scriptLanguages, value => { layer with scriptLanguages := some value }
  | .backwardLines, value => { layer with backwardLines := some value }

theorem get?_set_self (layer : Layer) (field : Field) (value : field.Value) :
    (layer.set field value).get? field = some value := by
  cases field <;> rfl

theorem get?_set_of_ne (layer : Layer) {field other : Field} (h : other ≠ field)
    (value : field.Value) : (layer.set field value).get? other = layer.get? other := by
  cases field <;> cases other <;> first
    | rfl
    | exact absurd rfl h

/-- The layer with the given fields. -/
def ofFields (fields : (field : Field) → Option field.Value) : Layer where
  includes := fields .includes
  workers := fields .workers
  pageLanguages := fields .pageLanguages
  scriptLanguages := fields .scriptLanguages
  backwardLines := fields .backwardLines

theorem get?_ofFields (fields : (field : Field) → Option field.Value) (field : Field) :
    (ofFields fields).get? field = fields field := by
  cases field <;> rfl

/-- **Layers are known by their fields.** -/
theorem ext_get? {layer layer' : Layer} (h : ∀ field, layer.get? field = layer'.get? field) :
    layer = layer' := by
  cases layer
  cases layer'
  obtain rfl := h .includes
  obtain rfl := h .workers
  obtain rfl := h .pageLanguages
  obtain rfl := h .scriptLanguages
  obtain rfl := h .backwardLines
  rfl

/-- A member under the key of a field sets the field. -/
theorem takeMember_of_key (layer : Layer) {field : Field} {name : Text}
    (h : String.ofList name = field.key) (extent : Extent) (value : Toml) :
    layer.takeMember name extent value = layer.set field <$> field.ofToml extent value := by
  unfold takeMember
  rw [h]
  cases field <;> rfl

/-- A member under no key is passed over. -/
theorem takeMember_of_forall_ne (layer : Layer) {name : Text}
    (h : ∀ field : Field, String.ofList name ≠ field.key) (extent : Extent) (value : Toml) :
    layer.takeMember name extent value = (fun _ => layer) <$> passOver extent value := by
  unfold takeMember
  split
  · exact absurd (by assumption) (h .includes)
  · exact absurd (by assumption) (h .workers)
  · exact absurd (by assumption) (h .pageLanguages)
  · exact absurd (by assumption) (h .scriptLanguages)
  · exact absurd (by assumption) (h .backwardLines)
  · rfl

/-- **A member that spoils nothing**: under the key of a field it has a value of the field, and
under any other name there is nothing wrong with it. -/
structure Fits (m : Text × Extent × Toml) : Prop where
  /-- Under the key of a field stands a value of the field. -/
  field : ∀ field : Field, String.ofList m.1 = field.key →
    ∃ value, field.ofToml m.2.1 m.2.2 = .ok value
  /-- Under any other name stands something that can be passed over. -/
  other : (∀ field : Field, String.ofList m.1 ≠ field.key) → passOver m.2.1 m.2.2 = .ok ()

/-- What a member under the key of one field sets each field to. -/
theorem get?_set_of_key (layer : Layer) {field : Field} {m : Text × Extent × Toml}
    (h : String.ofList m.1 = field.key) {value : field.Value}
    (hvalue : field.ofToml m.2.1 m.2.2 = .ok value) (other : Field) :
    (layer.set field value).get? other = if String.ofList m.1 = other.key
      then (other.ofToml m.2.1 m.2.2).toOption else layer.get? other := by
  by_cases hother : other = field
  · rw [hother, if_pos h, get?_set_self, hvalue]
    rfl
  · have hne : String.ofList m.1 ≠ other.key := fun hkey =>
      hother (Field.key_injective (hkey.symm.trans h))
    rw [if_neg hne, get?_set_of_ne layer hother]

/-- **One member**: if it fits, it decides about the field whose key it has, and about no other. -/
theorem takeMember_eq_ok_iff {layer layer' : Layer} {m : Text × Extent × Toml} :
    layer.takeMember m.1 m.2.1 m.2.2 = .ok layer' ↔ Fits m ∧ ∀ field : Field,
      layer'.get? field = if String.ofList m.1 = field.key
        then (field.ofToml m.2.1 m.2.2).toOption else layer.get? field := by
  by_cases hkey : ∃ field : Field, String.ofList m.1 = field.key
  · obtain ⟨field, hfield⟩ := hkey
    rw [takeMember_of_key layer hfield, map_eq_ok_iff]
    constructor
    · rintro ⟨value, hvalue, rfl⟩
      refine ⟨⟨fun other hother => ?_, fun hnone => absurd hfield (hnone field)⟩,
        get?_set_of_key layer hfield hvalue⟩
      obtain rfl := Field.key_injective (hfield.symm.trans hother)
      exact ⟨value, hvalue⟩
    · rintro ⟨hfits, hget⟩
      obtain ⟨value, hvalue⟩ := hfits.field field hfield
      refine ⟨value, hvalue, ext_get? fun other => ?_⟩
      rw [hget other, get?_set_of_key layer hfield hvalue]
  · have hne : ∀ field : Field, String.ofList m.1 ≠ field.key := not_exists.1 hkey
    rw [takeMember_of_forall_ne layer hne, map_eq_ok_iff]
    constructor
    · rintro ⟨⟨⟩, hpass, rfl⟩
      exact ⟨⟨fun field h => absurd h (hne field), fun _ => hpass⟩,
        fun field => (if_neg (hne field)).symm⟩
    · rintro ⟨hfits, hget⟩
      exact ⟨(), hfits.other hne, ext_get? fun field => by rw [hget field, if_neg (hne field)]⟩

/-- The last member under a key. -/
def last? (members : Members) (key : String) : Option (Extent × Toml) :=
  (members.reverse.find? fun m => String.ofList m.1 = key).map Prod.snd

theorem last?_concat (members : Members) (m : Text × Extent × Toml) (key : String) :
    last? (members ++ [m]) key =
      if String.ofList m.1 = key then some m.2 else last? members key := by
  rw [last?, List.reverse_concat, List.find?_cons]
  split_ifs with h
  · simp [h]
  · simp [h, last?]

/-- **In a document, a field is what the last member under its key says**, and all members have to
fit. -/
theorem ofMembersOfToml_eq_ok_iff {members : Members} {layer : Layer} :
    ofMembersOfToml members = .ok layer ↔ (∀ m ∈ members, Fits m) ∧ ∀ field : Field,
      layer.get? field = (last? members field.key).bind fun (extent, value) =>
        (field.ofToml extent value).toOption := by
  induction members using List.reverseRecOn generalizing layer with
  | nil =>
    constructor
    · intro h
      cases h
      refine ⟨by simp, fun field => ?_⟩
      cases field <;> rfl
    · rintro ⟨-, hget⟩
      refine congrArg Except.ok (ext_get? fun field => ?_)
      rw [hget field]
      cases field <;> rfl
  | append_singleton members m ih =>
    have hsplit : ofMembersOfToml (members ++ [m]) =
        ofMembersOfToml members >>= fun layer => layer.takeMember m.1 m.2.1 m.2.2 := by
      rw [ofMembersOfToml, List.foldlM_append]
      simp [ofMembersOfToml]
    rw [hsplit, bind_eq_ok_iff]
    simp only [ih, takeMember_eq_ok_iff, List.forall_mem_append, List.forall_mem_singleton,
      last?_concat]
    constructor
    · rintro ⟨before, ⟨hfits, hbefore⟩, hfit, hget⟩
      refine ⟨⟨hfits, hfit⟩, fun field => ?_⟩
      rw [hget field, hbefore field]
      split_ifs <;> rfl
    · -- before the last member, the fields were what the others say
      rintro ⟨⟨hfits, hfit⟩, hget⟩
      refine ⟨_, ⟨hfits, get?_ofFields _⟩, hfit, fun field => ?_⟩
      rw [hget field, get?_ofFields]
      split_ifs <;> rfl

/-- **A field has one key in both formats**: in an object and in a file of settings, it is read
from what stands under its key. -/
theorem fields_by_key (layer : Layer) :
    (∀ members : List (String × Json), ofJson (.obj members) = .ok layer ↔ ∀ field : Field,
      optional field.ofJson (((Json.obj members).get? field.key).getD .null) =
        .ok (layer.get? field)) ∧
    ∀ t : Text, ofToml t = .ok layer ↔ ∃ members, Toml.parse t = .ok members ∧
      (∀ m ∈ members, Fits m) ∧ ∀ field : Field,
        layer.get? field = (last? members field.key).bind fun (extent, value) =>
          (field.ofToml extent value).toOption := by
  refine ⟨fun members => ofMembers_eq_ok_iff, fun t => ?_⟩
  rw [ofToml, bind_eq_ok_iff]
  simp only [ofMembersOfToml_eq_ok_iff]

end Signpost.Layer
