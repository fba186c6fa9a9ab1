import Mathlib.Data.List.Induction
import Signpost.Proofs.Session.Mirror

/-!
# Settings are those of the last message that brings some

The settings of a session, its root and its understanding of links are kept apart, and each
changes on occasions of its own. A message that brings settings has them loaded afresh, from the
disk as it is at that moment, and the outcome takes the place of whatever was there before. So
none of the earlier settings shows, and nothing else that has happened since matters
(`Signpost.Session.settings_depend_on_last`).

The frame is one lemma, `Signpost.Session.handle_of_payload?_eq_none`: a message that brings no
settings may change documents, and that is all.
-/

namespace Signpost

/-- A message, and the world as it is when the message is handled. -/
structure Moment where
  /-- The environment. -/
  env : Environment
  /-- The disk. -/
  disk : Disk
  /-- The message. -/
  message : Message

/-- **The settings that a message brings**, if it is one that brings settings. A client may
introduce itself without any. -/
def Message.payload? : Message → Option (Option Payload)
  | .introduction said => some (said.options.map (⟨.start, ·⟩))
  | .configured value => some (some ⟨.change, value⟩)
  | _ => none

theorem Message.document?_eq_none_of_payload? {message : Message}
    (h : message.payload?.isSome) : message.document? = none := by
  cases message with
  | introduction | configured => rfl
  | ready | opened | changed | closed | definition => cases h

namespace Session

/-- The session after one more message. -/
def next (s : Session) (m : Moment) : Session :=
  (s.handle m.env m.disk m.message).session

/-- The session after some messages, from nothing. -/
def after (history : List Moment) : Session :=
  history.foldl next fresh

theorem after_concat (history : List Moment) (m : Moment) :
    after (history ++ [m]) = (after history).next m := by
  rw [after, List.foldl_concat, after]

/-! ### One message -/

/-- **A message that brings no settings changes nothing but documents.** -/
theorem handle_of_payload?_eq_none (s : Session) (env : Environment) (disk : Disk)
    {message : Message} (h : message.payload? = none) :
    (s.handle env disk message).session =
      { s with documents := (s.handle env disk message).session.documents } := by
  cases message with
  | introduction said => cases h
  | configured value => cases h
  | ready => rfl
  | opened uri language version text =>
    simp only [handle, openDocument]
    split <;> rfl
  | changed uri version changes =>
    simp only [handle, changeDocument]
    split
    · rfl
    · split
      · rfl
      · split <;> rfl
  | closed uri =>
    simp only [handle, closeDocument]
    split <;> rfl
  | definition uri position => rw [session_definition]

/-- A message that brings settings has them loaded for the root of the session, unless it
chooses another root. -/
theorem handle_of_payload?_eq_some (s : Session) (env : Environment) (disk : Disk)
    {message : Message} {payload : Option Payload} (h : message.payload? = some payload)
    (hlater : ∀ said, message ≠ .introduction said) :
    (s.handle env disk message).session =
      { s with settings := (Settings.load env disk s.root payload).settings } := by
  cases message with
  | introduction said => exact absurd rfl (hlater said)
  | configured value =>
    obtain rfl := Option.some_inj.1 h
    rfl
  | ready | opened | changed | closed | definition => cases h

/-! ### Many messages -/

/-- **How a session stands** after some messages, when the first one introduced a client with the
given root, or none, and the given understanding of links. -/
structure Stands (root : Option Path) (links : Bool) (history : List Moment) (s : Session) :
    Prop where
  /-- The root is the one that was chosen. -/
  root_eq : s.root = root
  /-- Links are understood as the client has said. -/
  links_eq : s.links = some links
  /-- The settings are what was loaded at the last message that brought some. -/
  settings_eq : ∃ earlier m later payload, history = earlier ++ m :: later ∧
    m.message.payload? = some payload ∧ (∀ m ∈ later, m.message.payload? = none) ∧
    s.settings = (Settings.load m.env m.disk root payload).settings

namespace Stands

theorem start (env : Environment) (disk : Disk) (said : Introduction) :
    Stands (rootOf env said) said.links [⟨env, disk, .introduction said⟩]
      (after [⟨env, disk, .introduction said⟩]) where
  root_eq := rfl
  links_eq := rfl
  settings_eq := ⟨[], ⟨env, disk, .introduction said⟩, [], _, rfl, rfl, by simp, rfl⟩

/-- **One more message** that is no introduction. -/
theorem step {root : Option Path} {links : Bool} {history : List Moment} {s : Session}
    (h : Stands root links history s) {m : Moment}
    (hlater : ∀ said, m.message ≠ .introduction said) :
    Stands root links (history ++ [m]) (s.next m) := by
  rcases hpayload : m.message.payload? with _ | payload
  · -- the last message that brought settings is the same as before
    obtain ⟨earlier, last, later, payload, rfl, hlast, hnone, hsettings⟩ := h.settings_eq
    rw [next, s.handle_of_payload?_eq_none m.env m.disk hpayload]
    refine ⟨h.root_eq, h.links_eq, earlier, last, later ++ [m], payload, by simp, hlast, ?_,
      hsettings⟩
    intro m' hm'
    rcases List.mem_append.1 hm' with hm' | hm'
    · exact hnone m' hm'
    · rwa [List.mem_singleton.1 hm']
  · rw [next, s.handle_of_payload?_eq_some m.env m.disk hpayload hlater, h.root_eq]
    exact ⟨rfl, h.links_eq, history, m, [], payload, rfl, hpayload, by simp, rfl⟩

/-- **Any number of messages.** -/
theorem run (env : Environment) (disk : Disk) (said : Introduction) {rest : List Moment}
    (hrest : ∀ m ∈ rest, ∀ said, m.message ≠ .introduction said) :
    Stands (rootOf env said) said.links (⟨env, disk, .introduction said⟩ :: rest)
      (after (⟨env, disk, .introduction said⟩ :: rest)) := by
  induction rest using List.reverseRecOn with
  | nil => exact start env disk said
  | append_singleton rest m ih =>
    rw [← List.cons_append, after_concat]
    refine (ih fun m' hm' => ?_).step ?_
    · exact hrest m' (List.mem_append_left _ hm')
    · exact hrest m (List.mem_append_right _ (List.mem_singleton_self m))

end Stands

/-- **Settings depend on the last message that brings some.** After a client has introduced
itself, and whatever it says and whatever becomes of the disk later on, the settings are those
that such a message asks for on the disk as it was then; root and links are those of the
introduction. A message without settings changes none of the three, and a message with settings
changes no document. -/
theorem settings_depend_on_last (env : Environment) (disk : Disk) (said : Introduction)
    {rest : List Moment} (hrest : ∀ m ∈ rest, ∀ said, m.message ≠ .introduction said) :
    let history : List Moment := ⟨env, disk, .introduction said⟩ :: rest
    Stands (rootOf env said) said.links history (after history) ∧
    (∀ m : Moment, m.message.payload? = none →
      ((after history).next m).settings = (after history).settings ∧
      ((after history).next m).root = (after history).root ∧
      ((after history).next m).links = (after history).links) ∧
    ∀ m : Moment, m.message.payload?.isSome →
      ((after history).next m).documents = (after history).documents := by
  intro history
  refine ⟨Stands.run env disk said hrest, fun m hm => ?_, fun m hm => ?_⟩
  · rw [next, (after history).handle_of_payload?_eq_none m.env m.disk hm]
    exact ⟨rfl, rfl, rfl⟩
  · exact (after history).documents_handle_of_aside m.env m.disk
      (Message.document?_eq_none_of_payload? hm)

/-- The client sends settings twice; before the second time a file of settings turns up in the
project, and it is gone when a document is opened. -/
theorem settings_depend_on_last_file :
    let env : Environment := ⟨none, none, some (.ofString "/")⟩
    let without : Disk := fun _ => .error .notFound
    let file : Disk := fun p => if p = .ofString "/a/dank-ls.toml" then
      .ok (.file (Utf8.encode "workerUrls = false".toList)) else .error .notFound
    let said : Introduction := { root := some "file:///a".toList, options := some .null }
    let rest : List Moment := [⟨env, without, .configured (.obj [("htmlPartials", .bool false)])⟩,
      ⟨env, file, .configured (.obj [("maxBackwardLines", .num (.int 2))])⟩]
    let history := ⟨env, without, .introduction said⟩ :: rest
    let opened := .opened "file:///a/b.js".toList "javascript" 1 []
    (∀ m ∈ rest, ∀ said, m.message ≠ .introduction said) ∧
      Stands (some (.ofString "/a")) false history (after history) ∧
      ((after history).next ⟨env, without, opened⟩).settings = (after history).settings := by
  intro env without file said rest history opened
  have hrest : ∀ m ∈ rest, ∀ said, m.message ≠ .introduction said := by
    simp [rest]
  obtain ⟨hstands, hkept, -⟩ := settings_depend_on_last env without said hrest
  have hroot : rootOf env said = some (.ofString "/a") := by decide +kernel
  rw [hroot] at hstands
  exact ⟨hrest, hstands, (hkept ⟨env, without, opened⟩ rfl).1⟩

end Session

end Signpost
