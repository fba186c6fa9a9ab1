import Signpost.Proofs.Resolve.Evidence
import Signpost.Proofs.Session.Mirror

/-!
# Answers are about the current documents

A session answers from its store. What it should answer from is a matter of the messages: the
document of a URL is what the last message that opened it brought, with every change since, and
there is none before it is opened and after it is closed. `Signpost.documentsAfter` says so
without a store, and `Signpost.Session.get?_handle` is the step that keeps the two together.

The second half says when a question for a definition gets an answer:
`Signpost.Session.destination_definition_eq_some_iff`.
-/

namespace Signpost

/-! ### Current documents -/

/-- **What a message does to the documents**, known by their URLs. -/
def Message.revise (documents : Url → Option Document) : Message → Url → Option Document
  | .opened uri language version text =>
    match Url.parse uri with
    | .ok url => Function.update documents url (some (.ofText text (some language) (some version)))
    | .error _ => documents
  | .changed uri version changes =>
    match Url.parse uri with
    | .ok url => Function.update documents url ((documents url).map fun document =>
        document.revise (Change.applyAll changes document.text) (some version))
    | .error _ => documents
  | .closed uri =>
    match Url.parse uri with
    | .ok url => Function.update documents url none
    | .error _ => documents
  | _ => documents

/-- **The documents after some messages**, from nothing. -/
def documentsAfter (history : List Message) : Url → Option Document :=
  history.foldl Message.revise fun _ => none

theorem documentsAfter_append (history more : List Message) :
    documentsAfter (history ++ more) = more.foldl Message.revise (documentsAfter history) :=
  List.foldl_append

namespace Store

theorem get?_insert (store : Store) (url : Url) (document : Document) :
    (store.insert url document).get? = Function.update store.get? url (some document) := by
  funext other
  by_cases h : other = url
  · rw [h, get?_insert_self, Function.update_self]
  · rw [get?_insert_ne store document h, Function.update_of_ne h]

theorem get?_erase (store : Store) (url : Url) :
    (store.erase url).get? = Function.update store.get? url none := by
  funext other
  by_cases h : other = url
  · rw [h, get?_erase_self, Function.update_self]
  · rw [get?_erase_ne store h, Function.update_of_ne h]

end Store

namespace Session

variable (s : Session) (env : Environment) (disk : Disk)

theorem get?_changed {uri : Text} {url : Url} (version : Int) (changes : List Change)
    (h : Url.parse uri = .ok url) :
    (s.handle env disk (.changed uri version changes)).session.documents.get? =
      Function.update s.documents.get? url ((s.documents.get? url).map fun document =>
        document.revise (Change.applyAll changes document.text) (some version)) := by
  rcases hget : s.documents.get? url with _ | document
  -- a change of nothing leaves nothing, on both sides
  · have htext : s.documents.text? url = none := by simp [Store.text?, hget]
    rw [s.session_changed_of_none env disk version changes h htext, Option.map_none, ← hget,
      Function.update_eq_self]
  · have htext : s.documents.text? url = some document.text := by simp [Store.text?, hget]
    simp only [handle, changeDocument, h, htext, Store.update, hget, Store.get?_insert,
      Option.map_some]

/-- **One message does to the store what it says**, whatever the world is like. -/
theorem get?_handle (message : Message) :
    (s.handle env disk message).session.documents.get? = message.revise s.documents.get? := by
  cases message with
  | opened uri language version text =>
    rcases h : Url.parse uri with e | url
    · rw [s.session_handle_of_error env disk rfl h]
      simp [Message.revise, h]
    · rw [s.documents_opened env disk language version text h, Store.get?_insert]
      simp [Message.revise, h]
  | changed uri version changes =>
    rcases h : Url.parse uri with e | url
    · rw [s.session_handle_of_error env disk rfl h]
      simp [Message.revise, h]
    · rw [s.get?_changed env disk version changes h]
      simp [Message.revise, h]
  | closed uri =>
    rcases h : Url.parse uri with e | url
    · rw [s.session_handle_of_error env disk rfl h]
      simp [Message.revise, h]
    · rw [s.documents_closed env disk h, Store.get?_erase]
      simp [Message.revise, h]
  | introduction said => exact congrArg Store.get? (s.documents_handle_of_aside env disk rfl)
  | ready => exact congrArg Store.get? (s.documents_handle_of_aside env disk rfl)
  | configured value => exact congrArg Store.get? (s.documents_handle_of_aside env disk rfl)
  | definition uri position =>
    exact congrArg Store.get? (s.documents_handle_of_aside env disk rfl)

end Session

/-! ### Grammars -/

/-- A grammar that is switched on. -/
def Grammar.IsOn (settings : Settings) : Grammar → Prop
  | page => settings.includes = true
  | script => settings.workers = true

theorem Grammar.isOn_of_ofLanguage? {settings : Settings} {language : String} {grammar : Grammar}
    (h : ofLanguage? settings language = some grammar) : grammar.IsOn settings := by
  unfold ofLanguage? at h
  split at h
  · rename_i hpage
    obtain rfl := Option.some.inj h
    exact (Bool.and_eq_true_iff.1 hpage).1
  · split at h
    · rename_i hscript
      obtain rfl := Option.some.inj h
      exact (Bool.and_eq_true_iff.1 hscript).1
    · cases h

/-- **A document is read by a grammar that is switched on**, or by none. -/
theorem Grammar.isOn_of_detect? {settings : Settings} {language : Option String} {url : Url}
    {grammar : Grammar} (h : detect? settings language url = some grammar) :
    grammar.IsOn settings := by
  rcases Option.or_eq_some_iff.1 h with h | ⟨-, h⟩
  · obtain ⟨_, -, hof⟩ := Option.bind_eq_some_iff.1 h
    exact isOn_of_ofLanguage? hof
  · obtain ⟨_, -, hof⟩ := Option.bind_eq_some_iff.1 h
    exact isOn_of_ofLanguage? hof

/-! ### Answers -/

/-- What the probe of a store accepts is open or a regular file. -/
theorem Store.probe_eq_ok {store : Store} {disk : Disk} {p : Path} {url : Url}
    (hurl : Url.ofPath? p = some url) (h : store.probe disk p = .ok ()) :
    (∃ document, store.get? url = some document) ∨ ∃ bytes, disk p = .ok (.file bytes) := by
  simp only [probe, hurl] at h
  split at h
  · rename_i hopen
    exact Or.inl (Option.isSome_iff_exists.1 hopen)
  · exact Or.inr (Disk.probe_eq_ok_iff.1 h)

/-- **The probe of a store accepts what is open and what is a regular file**, and nothing else. -/
theorem Store.probe_eq_ok_iff {store : Store} {disk : Disk} {p : Path} {url : Url}
    (hurl : Url.ofPath? p = some url) :
    store.probe disk p = .ok () ↔
      (∃ document, store.get? url = some document) ∨ ∃ bytes, disk p = .ok (.file bytes) := by
  refine ⟨Store.probe_eq_ok hurl, ?_⟩
  rintro (⟨document, hopen⟩ | ⟨bytes, hfile⟩)
  · simp [probe, hurl, contains, hopen]
  · simp [probe, hurl, Disk.probe, hfile]

namespace Session

variable {s : Session} {env : Environment} {disk : Disk} {uri : Text} {position : Position}

/-- How a session names a target, as the client understands it. -/
def destinationTo (links : Option Bool) (origin : Range) (uri : Text) : Destination :=
  if links.getD false then .link origin uri else .place uri

/-- **When a question for a definition is answered**: the document is open, some grammar reads
it, and the reference under the cursor resolves to a target with a URI. -/
theorem destination_definition_eq_some_iff {destination : Destination} :
    (s.handle env disk (.definition uri position)).destination = some destination ↔
      ∃ url document grammar r, Url.parse uri = .ok url ∧
        s.documents.get? url = some document ∧
        Grammar.detect? s.settings document.language url = some grammar ∧
        (resolve grammar (Snapshot.mk url document).source position s.settings.backwardLines
          (s.documents.probe disk)).reference? = some r ∧
        Uri.isValid r.target.url.href = true ∧
        destination = destinationTo s.links r.origin r.target.url.href := by
  constructor
  · intro h
    simp only [handle, answer] at h
    split at h
    · cases h
    · rename_i url hurl
      rcases hget : s.documents.get? url with _ | document
      · simp [Store.snapshot?, hget] at h
      rcases hgrammar : Grammar.detect? s.settings document.language url with _ | grammar
      · simp [Store.snapshot?, hget, define, hgrammar] at h
      rcases hr : (s.attempt disk grammar ⟨url, document⟩ position).reference? with _ | r
      · simp [Store.snapshot?, hget, define, hgrammar, hr] at h
      have hto : s.destinationOf? r = some destination := by
        simpa [Store.snapshot?, hget, define, hgrammar, hr] using h
      -- a target without a URI is not sent
      unfold destinationOf? at hto
      dsimp only at hto
      split at hto
      · rename_i hvalid
        exact ⟨url, document, grammar, r, hurl, hget, hgrammar, hr, hvalid,
          (Option.some.inj hto).symm⟩
      · cases hto
  · rintro ⟨url, document, grammar, r, hurl, hget, hgrammar, hr, hvalid, rfl⟩
    have hattempt : (s.attempt disk grammar ⟨url, document⟩ position).reference? = some r := hr
    simp [handle, answer, hurl, Store.snapshot?, hget, define, hgrammar, hattempt, destinationOf?,
      hvalid, destinationTo]

end Session

end Signpost
