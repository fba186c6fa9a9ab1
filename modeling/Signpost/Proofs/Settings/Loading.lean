import Signpost.Proofs.Settings.Merging
import Signpost.Settings.Load

/-!
# How settings are loaded

Settings come from three places, and each of them is in one of three states: there is nothing
(`Signpost.Settings.World.Absent`), there is a layer (`Signpost.Settings.World.Sound`), or there is
something that is no layer (`Signpost.Settings.World.Broken`). What counts as which differs from
place to place, and this is the only thing that does: **the state of a place decides what it has
to contribute**, a layer or none and an event or none. So loading is described without looking at
the places (`Signpost.Settings.World.Layered`), and a place that is broken contributes as much to
the settings as one where there is nothing.
-/

namespace Signpost.Settings

/-! ### Places and their states -/

/-- A place that settings come from. -/
inductive Place where
  /-- The file of the user. -/
  | user
  /-- The file of the project. -/
  | project
  /-- What the client sent. -/
  | client
deriving DecidableEq, Repr

/-- How high the layer of a place is. -/
def Place.height : Place → Nat
  | user => 0
  | project => 1
  | client => 2

/-- Everything that settings are loaded from. -/
structure World where
  /-- The environment. -/
  env : Environment
  /-- The disk. -/
  disk : Disk
  /-- The root of the project, if there is a project. -/
  root : Option Path
  /-- What the client sent, if it sent anything. -/
  payload : Option Payload

/-- A file of settings that holds a layer. -/
def Holds (disk : Disk) (file : Path) (layer : Layer) : Prop :=
  ∃ t, disk.read file = .ok t ∧ Layer.ofToml t = .ok layer

/-- What is wrong with a file of settings. -/
inductive Flaw where
  /-- It cannot be read. -/
  | unreadable (error : DiskError)
  /-- It can be read, but it is malformed. -/
  | malformed (report : String)

/-- A file of settings that is flawed. -/
inductive Flawed (disk : Disk) (file : Path) : Flaw → Prop
  /-- It cannot be read. -/
  | unreadable {error : DiskError} (hread : disk.read file = .error error) :
      Flawed disk file (.unreadable error)
  /-- It can be read, but its text is no layer. -/
  | malformed {t : Text} {fault : Toml.Fault} (hread : disk.read file = .ok t)
      (hfault : Layer.ofToml t = .error fault) : Flawed disk file (.malformed (fault.report t))

/-- A flaw in the words of a message. -/
def Flaw.text : Flaw → String
  | unreadable error => error.message
  | malformed report => report

/-- The failure that a flaw of the file of the user is. -/
def Flaw.failure (file : Path) : Flaw → Failure
  | unreadable error => .disk error
  | malformed report => .configuration (file.display ++ ": " ++ report)

theorem holds_or_flawed (disk : Disk) (file : Path) :
    (∃ layer, Holds disk file layer) ∨ ∃ flaw, Flawed disk file flaw := by
  rcases hread : disk.read file with error | t
  · exact Or.inr ⟨_, .unreadable hread⟩
  · rcases hlayer : Layer.ofToml t with fault | layer
    · exact Or.inr ⟨_, .malformed hread hlayer⟩
    · exact Or.inl ⟨layer, t, hread, hlayer⟩

theorem Holds.leadsAnywhere {disk : Disk} {file : Path} {layer : Layer}
    (h : Holds disk file layer) : disk.leadsAnywhere file = true := by
  obtain ⟨t, hread, -⟩ := h
  exact Disk.leadsAnywhere_of_read hread

/-- What is sent counts unless it is null. -/
theorem clientLayer_of_ne_null {payload : Payload} (h : inSection payload.value ≠ .null) :
    clientLayer payload =
      match Layer.ofJson (inSection payload.value) with
      | .ok layer => (some layer, [.info ("Applied " ++ payload.occasion.text)])
      | .error fault =>
        (none, [.warning ("Ignoring " ++ payload.occasion.text ++ ": " ++ fault.message)]) := by
  unfold clientLayer
  split
  · exact absurd (by assumption) h
  · rfl

namespace World

/-- **Nothing is there**: no file of the user, whatever the disk says about its path, no project or
no file of it, nothing from the client or just null. -/
def Absent (w : World) : Place → Prop
  | .user => ∀ file, userFile? w.env = some file → w.disk.leadsAnywhere file = false
  | .project => ∀ root, w.root = some root → w.disk.read (root.join fileName) = .error .notFound
  | .client => ∀ payload, w.payload = some payload → inSection payload.value = .null

/-- **A layer is there**, and is announced by a message. -/
def Sound (w : World) : Place → Layer → String → Prop
  | .user, layer, message =>
    ∃ file, userFile? w.env = some file ∧ Holds w.disk file layer ∧ message = "Loaded user config"
  | .project, layer, message =>
    ∃ root, w.root = some root ∧ Holds w.disk (root.join fileName) layer ∧
      message = "Loaded " ++ (root.join fileName).display
  | .client, layer, message =>
    ∃ payload, w.payload = some payload ∧ inSection payload.value ≠ .null ∧
      Layer.ofJson (inSection payload.value) = .ok layer ∧
      message = "Applied " ++ payload.occasion.text

/-- **Something is there, but no layer**, and a message warns of it. -/
def Broken (w : World) : Place → String → Prop
  | .user, message =>
    ∃ file flaw, userFile? w.env = some file ∧ w.disk.leadsAnywhere file = true ∧
      Flawed w.disk file flaw ∧ message = "Skipping user config: " ++ (flaw.failure file).message
  | .project, message =>
    ∃ root flaw, w.root = some root ∧ Flawed w.disk (root.join fileName) flaw ∧
      w.disk.read (root.join fileName) ≠ .error .notFound ∧
      message = "Skipping " ++ (root.join fileName).display ++ ": " ++ flaw.text
  | .client, message =>
    ∃ payload fault, w.payload = some payload ∧ inSection payload.value ≠ .null ∧
      Layer.ofJson (inSection payload.value) = .error fault ∧
      message = "Ignoring " ++ payload.occasion.text ++ ": " ++ fault.message

/-- **A file of the user that is there and cannot be opened** is not passed over in silence. -/
theorem broken_user_of_sealed {w : World} {file : Path} {regular : Bool} {reason : DiskError}
    (hfile : userFile? w.env = some file) (h : w.disk file = .ok (.sealed regular reason)) :
    w.Broken .user ("Skipping user config: " ++ (Failure.disk reason).message) := by
  have hanywhere : w.disk.leadsAnywhere file = true := by rw [Disk.leadsAnywhere, h]
  have hread : w.disk.read file = .error reason := by rw [Disk.read, h]
  exact ⟨file, _, hfile, hanywhere, .unreadable hread, rfl⟩

/-- A place is in one of the three states. -/
theorem absent_or_sound_or_broken (w : World) (place : Place) :
    w.Absent place ∨ (∃ layer message, w.Sound place layer message) ∨
      ∃ message, w.Broken place message := by
  cases place with
  | user =>
    rcases hfile : userFile? w.env with _ | file
    · exact Or.inl fun file h => by rw [hfile] at h; cases h
    · rcases hanywhere : w.disk.leadsAnywhere file with _ | _
      · refine Or.inl fun file' h => ?_
        obtain rfl := Option.some.inj (hfile.symm.trans h)
        exact hanywhere
      · rcases holds_or_flawed w.disk file with ⟨layer, hlayer⟩ | ⟨flaw, hflaw⟩
        · exact Or.inr (Or.inl ⟨layer, _, file, hfile, hlayer, rfl⟩)
        · exact Or.inr (Or.inr ⟨_, file, flaw, hfile, hanywhere, hflaw, rfl⟩)
  | project =>
    rcases hroot : w.root with _ | root
    · exact Or.inl fun root h => by rw [hroot] at h; cases h
    · by_cases hmissing : w.disk.read (root.join fileName) = .error .notFound
      · refine Or.inl fun root' h => ?_
        obtain rfl := Option.some.inj (hroot.symm.trans h)
        exact hmissing
      · rcases holds_or_flawed w.disk (root.join fileName) with ⟨layer, hlayer⟩ | ⟨flaw, hflaw⟩
        · exact Or.inr (Or.inl ⟨layer, _, root, hroot, hlayer, rfl⟩)
        · exact Or.inr (Or.inr ⟨_, root, flaw, hroot, hflaw, hmissing, rfl⟩)
  | client =>
    rcases hpayload : w.payload with _ | payload
    · exact Or.inl fun payload h => by rw [hpayload] at h; cases h
    · by_cases hnull : inSection payload.value = .null
      · refine Or.inl fun payload' h => ?_
        obtain rfl := Option.some.inj (hpayload.symm.trans h)
        exact hnull
      · rcases hlayer : Layer.ofJson (inSection payload.value) with fault | layer
        · exact Or.inr (Or.inr ⟨_, payload, fault, hpayload, hnull, hlayer, rfl⟩)
        · exact Or.inr (Or.inl ⟨layer, _, payload, hpayload, hnull, hlayer, rfl⟩)

/-! ### What a place contributes -/

/-- What a place contributes: a layer or none, and what there is to say about it. -/
def outcome (w : World) : Place → Option Layer × List Event
  | .user => userLayer w.env w.disk
  | .project => (w.root.map (projectLayer w.disk)).getD (none, [])
  | .client => (w.payload.map clientLayer).getD (none, [])

variable {w w' : World} {place : Place} {layer : Layer} {message : String}

theorem outcome_of_absent (h : w.Absent place) : w.outcome place = (none, []) := by
  cases place with
  | user =>
    have hnone : loadUser w.env w.disk = .ok none := by
      unfold loadUser
      split
      · rfl
      · rename_i file hfile
        simp [h file hfile]
    rw [outcome, userLayer, hnone]
  | project =>
    rcases hroot : w.root with _ | root
    · rw [outcome, hroot]
      rfl
    · rw [outcome, hroot, Option.map_some, Option.getD_some, projectLayer, h root hroot]
  | client =>
    rcases hpayload : w.payload with _ | payload
    · rw [outcome, hpayload]
      rfl
    · rw [outcome, hpayload, Option.map_some, Option.getD_some, clientLayer, h payload hpayload]

theorem outcome_of_sound (h : w.Sound place layer message) :
    w.outcome place = (some layer, [.info message]) := by
  cases place with
  | user =>
    obtain ⟨file, hfile, hholds, rfl⟩ := h
    have hanywhere := hholds.leadsAnywhere
    obtain ⟨t, hread, hlayer⟩ := hholds
    have hload : loadUser w.env w.disk = .ok (some layer) := by
      simp [loadUser, hfile, hanywhere, hread, hlayer]
    rw [outcome, userLayer, hload]
  | project =>
    obtain ⟨root, hroot, ⟨t, hread, hlayer⟩, rfl⟩ := h
    simp [outcome, hroot, projectLayer, hread, hlayer]
  | client =>
    obtain ⟨payload, hpayload, hnull, hlayer, rfl⟩ := h
    rw [outcome, hpayload, Option.map_some, Option.getD_some, clientLayer_of_ne_null hnull, hlayer]

theorem outcome_of_broken (h : w.Broken place message) :
    w.outcome place = (none, [.warning message]) := by
  cases place with
  | user =>
    obtain ⟨file, flaw, hfile, hanywhere, hflaw, rfl⟩ := h
    have hload : loadUser w.env w.disk = .error (flaw.failure file) := by
      cases hflaw with
      | unreadable hread => simp [loadUser, hfile, hanywhere, hread, Flaw.failure]
      | malformed hread hfault => simp [loadUser, hfile, hanywhere, hread, hfault, Flaw.failure]
    rw [outcome, userLayer, hload]
  | project =>
    obtain ⟨root, flaw, hroot, hflaw, hmissing, rfl⟩ := h
    rw [outcome, hroot, Option.map_some, Option.getD_some]
    cases hflaw with
    | @unreadable error hread =>
      rw [hread] at hmissing
      cases error with
      | notFound => exact absurd rfl hmissing
      | _ => simp [projectLayer, hread, Flaw.text]
    | malformed hread hfault => simp [projectLayer, hread, hfault, Flaw.text]
  | client =>
    obtain ⟨payload, fault, hpayload, hnull, hfault, rfl⟩ := h
    rw [outcome, hpayload, Option.map_some, Option.getD_some, clientLayer_of_ne_null hnull, hfault]

/-- Two worlds in which a place is in the same state. -/
structure Alike (w w' : World) (place : Place) : Prop where
  /-- Nothing is there in both or in none. -/
  absent : w.Absent place ↔ w'.Absent place
  /-- The same layer is there, under the same message. -/
  sound : ∀ layer message, w.Sound place layer message ↔ w'.Sound place layer message
  /-- The same is warned of. -/
  broken : ∀ message, w.Broken place message ↔ w'.Broken place message

/-- **The state of a place decides what it contributes.** -/
theorem Alike.outcome_eq (h : w.Alike w' place) : w.outcome place = w'.outcome place := by
  rcases w.absent_or_sound_or_broken place with hw | ⟨layer, message, hw⟩ | ⟨message, hw⟩
  · rw [outcome_of_absent hw, outcome_of_absent (h.absent.1 hw)]
  · rw [outcome_of_sound hw, outcome_of_sound ((h.sound layer message).1 hw)]
  · rw [outcome_of_broken hw, outcome_of_broken ((h.broken message).1 hw)]

/-! ### Loading from all places -/

/-- Settings as they are loaded from a world. -/
def load (w : World) : Loaded :=
  Settings.load w.env w.disk w.root w.payload

/-- The stack of layers, with the defaults at the bottom. -/
def layers (w : World) : List (Option Layer) :=
  [some .default, (w.outcome .user).1, (w.outcome .project).1, (w.outcome .client).1]

theorem events_load (w : World) :
    w.load.events = (w.outcome .user).2 ++ (w.outcome .project).2 ++ (w.outcome .client).2 :=
  rfl

/-- There is always something to load, because the defaults are a layer. -/
theorem exists_mergeAll (w : World) :
    ∃ merged, Layer.mergeAll w.layers = some merged ∧ w.load.settings = ofLayer merged := by
  have hne : Layer.mergeAll w.layers ≠ none := by
    rw [Ne, Layer.mergeAll_eq_none_iff]
    exact fun hall => nomatch hall (some .default) List.mem_cons_self
  obtain ⟨merged, hmerged⟩ := Option.ne_none_iff_exists'.1 hne
  have hload : w.load.settings = ofLayer ((Layer.mergeAll w.layers).getD {}) := rfl
  exact ⟨merged, hmerged, by rw [hload, hmerged, Option.getD_some]⟩

/-- A place sets a field. -/
def Sets (w : World) (place : Place) (field : Layer.Field) (value : field.Value) : Prop :=
  ∃ layer message, w.Sound place layer message ∧ layer.get? field = some value

/-- **The value that counts**: the one of the highest place that sets the field, and the default if
none does. -/
def Counts (w : World) (field : Layer.Field) (value : field.Value) : Prop :=
  (∃ place, w.Sets place field value ∧
    ∀ higher, place.height < higher.height → ∀ other, ¬ w.Sets higher field other) ∨
  (∀ place other, ¬ w.Sets place field other) ∧ value = default.get field

theorem sets_iff {field : Layer.Field} {value : field.Value} :
    w.Sets place field value ↔ Layer.setting? (w.outcome place).1 field = some value := by
  constructor
  · rintro ⟨layer, message, hsound, hvalue⟩
    rw [outcome_of_sound hsound]
    exact hvalue
  · intro h
    rcases w.absent_or_sound_or_broken place with hw | ⟨layer, message, hw⟩ | ⟨message, hw⟩
    · rw [outcome_of_absent hw] at h
      cases h
    · rw [outcome_of_sound hw] at h
      exact ⟨layer, message, hw, h⟩
    · rw [outcome_of_broken hw] at h
      cases h

theorem forall_not_sets_iff {field : Layer.Field} :
    (∀ value, ¬ w.Sets place field value) ↔ Layer.setting? (w.outcome place).1 field = none := by
  simp only [sets_iff, Option.eq_none_iff_forall_ne_some]

/-- A field is looked for from the top of the stack downwards. -/
theorem get_load (w : World) (field : Layer.Field) :
    w.load.settings.get field =
      ((Layer.setting? (w.outcome .client).1 field).or
        ((Layer.setting? (w.outcome .project).1 field).or
          (Layer.setting? (w.outcome .user).1 field))).getD (default.get field) := by
  obtain ⟨merged, hmerged, hload⟩ := w.exists_mergeAll
  have hdefault : Layer.setting? (some .default) field = some (default.get field) :=
    get?_default field
  have hget : merged.get? field = Layer.setting? (Layer.mergeAll w.layers) field := by
    rw [hmerged]
    rfl
  have hstack : Layer.setting? (Layer.mergeAll w.layers) field =
      (Layer.setting? (w.outcome .client).1 field).or
        ((Layer.setting? (w.outcome .project).1 field).or
          ((Layer.setting? (w.outcome .user).1 field).or (some (default.get field)))) := by
    simp [layers, Layer.mergeAll, hdefault]
  rw [hload, get_ofLayer, hget, hstack]
  simp [Option.getD_or]

theorem counts_load (w : World) (field : Layer.Field) :
    w.Counts field (w.load.settings.get field) := by
  rw [get_load]
  rcases hclient : Layer.setting? (w.outcome .client).1 field with _ | value
  · rcases hproject : Layer.setting? (w.outcome .project).1 field with _ | value
    · rcases huser : Layer.setting? (w.outcome .user).1 field with _ | value
      · refine Or.inr ⟨fun place => ?_, rfl⟩
        cases place with
        | user => exact forall_not_sets_iff.2 huser
        | project => exact forall_not_sets_iff.2 hproject
        | client => exact forall_not_sets_iff.2 hclient
      · refine Or.inl ⟨.user, sets_iff.2 huser, fun higher hhigher => ?_⟩
        cases higher with
        | user => exact absurd hhigher (by decide)
        | project => exact forall_not_sets_iff.2 hproject
        | client => exact forall_not_sets_iff.2 hclient
    · refine Or.inl ⟨.project, sets_iff.2 hproject, fun higher hhigher => ?_⟩
      cases higher with
      | user => exact absurd hhigher (by decide)
      | project => exact absurd hhigher (by decide)
      | client => exact forall_not_sets_iff.2 hclient
  · refine Or.inl ⟨.client, sets_iff.2 hclient, fun higher hhigher => ?_⟩
    cases higher <;> exact absurd hhigher (by decide)

/-- **What is loaded is what counts**, and nothing else does. -/
theorem counts_iff {w : World} {field : Layer.Field} {value : field.Value} :
    w.Counts field value ↔ value = w.load.settings.get field := by
  refine ⟨?_, fun h => h ▸ w.counts_load field⟩
  rw [get_load]
  rintro (⟨place, hsets, hhigher⟩ | ⟨hnone, rfl⟩)
  · have hvalue := sets_iff.1 hsets
    have hopen := fun higher h => forall_not_sets_iff.1 (hhigher higher h)
    cases place with
    | user => simp [hvalue, hopen .client (by decide), hopen .project (by decide)]
    | project => simp [hvalue, hopen .client (by decide)]
    | client => simp [hvalue]
  · have hopen := fun place => forall_not_sets_iff.1 (hnone place)
    simp [hopen]

/-! ### Places that are broken -/

/-- **A world without a place**: nothing is there, and the other places are as before. -/
structure Without (w' w : World) (place : Place) : Prop where
  /-- Nothing is there. -/
  absent : w'.Absent place
  /-- The other places are in the same state as before. -/
  alike : ∀ other, other ≠ place → w.Alike w' other

/-- The world with nothing at a place. -/
def without (w : World) : Place → World
  | .user => { w with env := ⟨none, none, w.env.workingDirectory⟩ }
  | .project => { w with root := none }
  | .client => { w with payload := none }

/-- No place reads anything that another place reads, apart from the disk. -/
theorem without_without (w : World) (place : Place) : (w.without place).Without w place where
  absent := by cases place <;> nofun
  alike other hother := by
    cases place <;> cases other <;> first
      | exact absurd rfl hother
      | exact ⟨Iff.rfl, fun _ _ => Iff.rfl, fun _ => Iff.rfl⟩

/-- Settings depend on the layers of the places. -/
theorem settings_load_congr_outcome (h : ∀ place, (w.outcome place).1 = (w'.outcome place).1) :
    w.load.settings = w'.load.settings := by
  refine ext_get fun field => ?_
  rw [get_load, get_load, h, h, h]

/-- **A broken place adds a warning**, and nothing else. -/
theorem load_of_broken (h : w.Broken place message) (hwithout : w'.Without w place) :
    w.load.settings = w'.load.settings ∧ ∃ before after, w'.load.events = before ++ after ∧
      w.load.events = before ++ .warning message :: after := by
  have hbroken := outcome_of_broken h
  have habsent := outcome_of_absent hwithout.absent
  have hother := fun other hother => (hwithout.alike other hother).outcome_eq
  constructor
  · refine settings_load_congr_outcome fun other => ?_
    rcases eq_or_ne other place with rfl | hne
    · rw [hbroken, habsent]
    · rw [hother other hne]
  · rw [events_load, events_load]
    cases place with
    | user =>
      rw [hbroken, habsent, hother .project (by decide), hother .client (by decide)]
      exact ⟨[], (w'.outcome .project).2 ++ (w'.outcome .client).2, by simp, by simp⟩
    | project =>
      rw [hbroken, habsent, hother .user (by decide), hother .client (by decide)]
      exact ⟨(w'.outcome .user).2, (w'.outcome .client).2, by simp, by simp⟩
    | client =>
      rw [hbroken, habsent, hother .user (by decide), hother .project (by decide)]
      exact ⟨(w'.outcome .user).2 ++ (w'.outcome .project).2, [], by simp, by simp⟩

/-! ### Sections -/

theorem inSection_section {name : String} (h : name ∈ sections) (value : Json) :
    inSection (.obj [(name, value)]) = value := by
  simp only [sections, List.mem_cons, List.not_mem_nil, or_false] at h
  rcases h with rfl | rfl
  · rfl
  · rfl

theorem inSection_of_get?_eq_none {value : Json} (h : ∀ name ∈ sections, value.get? name = none) :
    inSection value = value := by
  rw [inSection, List.findSome?_eq_none_iff.2 h, Option.getD_none]

/-- **Settings may be sent in a section or without one.** -/
theorem load_section (w : World) (occasion : Occasion) {value : Json}
    (h : ∀ name ∈ sections, value.get? name = none) {name : String} (hname : name ∈ sections) :
    load { w with payload := some ⟨occasion, .obj [(name, value)]⟩ } =
      load { w with payload := some ⟨occasion, value⟩ } := by
  have hlayer : clientLayer ⟨occasion, .obj [(name, value)]⟩ = clientLayer ⟨occasion, value⟩ := by
    simp only [clientLayer, inSection_section hname, inSection_of_get?_eq_none h]
  simp only [load, Settings.load, Option.map_some, hlayer]

/-! ### The whole -/

/-- **How settings are loaded from a world.** -/
structure Layered (w : World) : Prop where
  /-- Each place is in one of the three states. -/
  states : ∀ place, w.Absent place ∨ (∃ layer message, w.Sound place layer message) ∨
    ∃ message, w.Broken place message
  /-- There is something to load. -/
  merged : ∃ merged, Layer.mergeAll w.layers = some merged ∧ w.load.settings = ofLayer merged
  /-- Each field has the value that counts. -/
  counts : ∀ (field : Layer.Field) (value : field.Value),
    w.Counts field value ↔ value = w.load.settings.get field
  /-- In the order of the places, there is nothing to say where nothing is, a layer is announced,
  and what is broken is warned of. -/
  events : ∃ said : Place → List Event,
    w.load.events = said .user ++ said .project ++ said .client ∧
      ∀ place, (w.Absent place → said place = []) ∧
        (∀ layer message, w.Sound place layer message → said place = [.info message]) ∧
        ∀ message, w.Broken place message → said place = [.warning message]
  /-- What is broken can be left out, and this takes away its warning and nothing else. -/
  broken : ∀ place message, w.Broken place message → (∃ w' : World, w'.Without w place) ∧
    ∀ w' : World, w'.Without w place → w.load.settings = w'.load.settings ∧
      ∃ before after, w'.load.events = before ++ after ∧
        w.load.events = before ++ .warning message :: after
  /-- A client may send its settings in a section or without one. -/
  nested : ∀ (occasion : Occasion) (value : Json), (∀ name ∈ sections, value.get? name = none) →
    ∀ name ∈ sections, load { w with payload := some ⟨occasion, .obj [(name, value)]⟩ } =
      load { w with payload := some ⟨occasion, value⟩ }

/-- **Settings are loaded in layers**, from every world; and in every stack of layers the last one
that sets a field counts. -/
theorem layered (w : World) :
    w.Layered ∧ ∀ layers : List (Option Layer),
      (Layer.mergeAll layers = none ↔ ∀ layer ∈ layers, layer = none) ∧
      ∀ (field : Layer.Field) (value : field.Value),
        Layer.setting? (Layer.mergeAll layers) field = some value ↔
          Layer.LastSets layers field value := by
  constructor
  · refine ⟨w.absent_or_sound_or_broken, w.exists_mergeAll, fun field value => counts_iff,
      ⟨fun place => (w.outcome place).2, w.events_load, fun place => ⟨?_, ?_, ?_⟩⟩, ?_, ?_⟩
    · exact fun h => congrArg Prod.snd (outcome_of_absent h)
    · exact fun layer message h => congrArg Prod.snd (outcome_of_sound h)
    · exact fun message h => congrArg Prod.snd (outcome_of_broken h)
    · intro place message h
      exact ⟨⟨w.without place, w.without_without place⟩, fun w' => load_of_broken h⟩
    · intro occasion value h name hname
      exact w.load_section occasion h hname
  · intro layers
    exact ⟨Layer.mergeAll_eq_none_iff layers, Layer.setting?_mergeAll_eq_some_iff layers⟩

/-- The file of the user sets two fields, and the client sets one of the two again, in a section.
The file of the project is malformed, so all other fields have their defaults. Where the file of
the user cannot be opened, its fields do not count either, and there is a warning. -/
theorem layered_malformed :
    let put : Path → Node → Disk → Disk := fun path node disk p =>
      if p = path then .ok node else disk p
    let file := Path.ofString "/home/.config/dank-ls/dank-ls.toml"
    let disk := put file (.file (Utf8.encode "maxBackwardLines = 7\nworkerUrls = false".toList))
      (put (.ofString "/p/dank-ls.toml") (.file (Utf8.encode "htmlPartials = 3".toList))
        fun _ => .error .notFound)
    let w : World := ⟨⟨none, some (.ofString "/home"), some (.ofString "/")⟩, disk,
      some (.ofString "/p"), some ⟨.change, .obj [("dankLs", .obj [("workerUrls", .bool true)])]⟩⟩
    let sealedUser : World :=
      { w with disk := put file (.sealed true (.other "Permission denied (os error 13)")) disk }
    w.Counts .backwardLines 7 ∧ w.Counts .workers true ∧ w.Counts .includes true ∧
      (∃ message, w.Broken .project message ∧
        w.load.settings = (w.without .project).load.settings) ∧
      sealedUser.Broken .user "Skipping user config: IO error: Permission denied (os error 13)" ∧
      sealedUser.load.settings = (sealedUser.without .user).load.settings := by
  intro put file disk w sealedUser
  obtain ⟨hlayered, -⟩ := w.layered
  have houtcome : (w.outcome .project).1 = none ∧ (w.outcome .project).2 ≠ [] := by
    decide +kernel
  have hbroken : ∃ message, w.Broken .project message := by
    rcases hlayered.states .project with h | ⟨layer, message, h⟩ | h
    · rw [outcome_of_absent h] at houtcome
      exact absurd rfl houtcome.2
    · rw [outcome_of_sound h] at houtcome
      cases houtcome.1
    · exact h
  obtain ⟨message, hmessage⟩ := hbroken
  obtain ⟨-, hwithout⟩ := hlayered.broken .project message hmessage
  have hfile : userFile? sealedUser.env = some file := by decide +kernel
  have hsealed : sealedUser.Broken .user
      "Skipping user config: IO error: Permission denied (os error 13)" := by
    have hdisk : sealedUser.disk file =
        .ok (.sealed true (.other "Permission denied (os error 13)")) := by
      simp only [sealedUser, put, if_true]
    have htext : "Skipping user config: " ++
        (Failure.disk (.other "Permission denied (os error 13)")).message =
        "Skipping user config: IO error: Permission denied (os error 13)" := by decide +kernel
    rw [← htext]
    exact broken_user_of_sealed hfile hdisk
  obtain ⟨-, hwithout'⟩ := sealedUser.layered.1.broken .user _ hsealed
  exact ⟨(hlayered.counts .backwardLines 7).2 (by decide +kernel),
    (hlayered.counts .workers true).2 (by decide +kernel),
    (hlayered.counts .includes true).2 (by decide +kernel),
    ⟨message, hmessage, (hwithout _ (w.without_without .project)).1⟩, hsealed,
    (hwithout' _ (sealedUser.without_without .user)).1⟩

end World

end Signpost.Settings
