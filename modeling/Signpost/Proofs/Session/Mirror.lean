import Mathlib.Logic.Function.Basic
import Signpost.Proofs.Text.Edits
import Signpost.Session.Basic

/-!
# The store mirrors the client

A client keeps a copy of every text it has open (`Signpost.Client`) and tells the session of
each thing it does to a copy. Nothing is ever sent back, so nobody would notice if the two
came to hold different texts; every later answer would be about a text that nobody sees.

They do not drift apart. `Signpost.Exchange` is the pair of a client and a session after any
number of messages, in any order and about any documents, and
`Signpost.Exchange.text?_eq_some_iff` says that the store holds a text under a URL exactly
when the client has it open under a URI with that URL.

Two things are asked of the client. No two of its documents have the same URL
(`Signpost.DistinctUrls`): a session knows documents by their URLs and would take them for
one. And the edits it tells of can be told (`Signpost.Edit.FairAll`). It may do what it likes
apart from that: open a document twice, close one that is not open, tell of changes to
documents that it never opened, and use URIs that are no URLs.
-/

namespace Signpost

/-- A client, as the copies it keeps: the text that it has open under each URI. -/
abbrev Client := Text → Option Text

/-- The URI of the document that a message opens, changes or closes. -/
def Message.document? : Message → Option Text
  | .opened uri _ _ _ => some uri
  | .changed uri _ _ => some uri
  | .closed uri => some uri
  | _ => none

namespace Client

/-- The client that has nothing open. -/
def idle : Client := fun _ => none

/-- **What a client may send**, and its copies afterwards. -/
inductive Sends (client : Client) : Message → Client → Prop
  /-- It opens a document. -/
  | opened (uri : Text) (language : String) (version : Int) (text : Text) :
    Sends client (.opened uri language version text) (Function.update client uri (some text))
  /-- It edits a copy, and tells of the edits. -/
  | edited {uri copy : Text} (version : Int) (edits : List Edit) (hopen : client uri = some copy)
      (hfair : Edit.FairAll edits copy) :
    Sends client (.changed uri version (Edit.reportAll edits copy))
      (Function.update client uri (some (Edit.applyAll edits copy)))
  /-- It closes a document, which may not be open. -/
  | closed (uri : Text) : Sends client (.closed uri) (Function.update client uri none)
  /-- It tells of any changes at all to a document that is not open. -/
  | stray {uri : Text} (version : Int) (changes : List Change) (hopen : client uri = none) :
    Sends client (.changed uri version changes) client
  /-- It speaks of something else. -/
  | aside {message : Message} (h : message.document? = none) : Sends client message client

/-- A message leaves the copies alone that it is not about. -/
theorem Sends.eq_of_ne {client client' : Client} {message : Message} {uri : Text}
    (hsent : client.Sends message client') (h : message.document? ≠ some uri) :
    client' uri = client uri := by
  cases hsent with
  | opened => exact Function.update_of_ne (fun heq => h (congrArg some heq.symm)) _ _
  | edited => exact Function.update_of_ne (fun heq => h (congrArg some heq.symm)) _ _
  | closed => exact Function.update_of_ne (fun heq => h (congrArg some heq.symm)) _ _
  | stray => rfl
  | aside => rfl

/-- A document is not open: the client has nothing under any URI with its URL. -/
def NotOpen (client : Client) (uri : Text) : Prop :=
  ∀ other, Url.parse other = Url.parse uri → client other = none

/-- **A message about no open document**: its URI is no URL, or it changes or closes what is
not open. -/
inductive Pointless (client : Client) : Message → Prop
  /-- The URI is no URL. -/
  | rejected {message : Message} {uri : Text} {e : UrlError} (hm : message.document? = some uri)
      (h : Url.parse uri = .error e) : Pointless client message
  /-- A document is changed that is not open. -/
  | changed {uri : Text} (version : Int) (changes : List Change) (h : client.NotOpen uri) :
    Pointless client (.changed uri version changes)
  /-- A document is closed that is not open. -/
  | closed {uri : Text} (h : client.NotOpen uri) : Pointless client (.closed uri)

end Client

/-- A client and a session after some messages about documents of the given URIs. The world
may be another one at each message. -/
inductive Exchange (documents : Set Text) : Client → Session → Prop
  /-- Nothing has been said. -/
  | start : Exchange documents .idle .fresh
  /-- The client sends one more message. -/
  | step {client client' : Client} {session : Session} {message : Message}
      (before : Exchange documents client session) (env : Environment) (disk : Disk)
      (huri : ∀ uri, message.document? = some uri → uri ∈ documents)
      (hsent : client.Sends message client') :
    Exchange documents client' (session.handle env disk message).session

/-- No two of the given URIs have the same URL. -/
def DistinctUrls (documents : Set Text) : Prop :=
  ∀ uri ∈ documents, ∀ other ∈ documents, ∀ url,
    Url.parse uri = .ok url → Url.parse other = .ok url → uri = other

/-! ### What one message does to the store -/

namespace Store

@[simp] theorem text?_empty (url : Url) : empty.text? url = none := rfl

theorem text?_insert (store : Store) (url other : Url) (document : Document) :
    (store.insert url document).text? other =
      if other = url then some document.text else store.text? other := by
  by_cases h : other = url
  · rw [if_pos h, h]
    simp [text?]
  · rw [if_neg h]
    simp [text?, h]

theorem text?_erase (store : Store) (url other : Url) :
    (store.erase url).text? other = if other = url then none else store.text? other := by
  by_cases h : other = url
  · rw [if_pos h, h]
    simp [text?]
  · rw [if_neg h]
    simp [text?, h]

/-- Closing what is not open changes nothing. -/
theorem erase_of_get?_eq_none {store : Store} {url : Url} (h : store.get? url = none) :
    store.erase url = store := by
  have hothers : store.others url = store.entries := by
    rw [others, List.filter_eq_self]
    intro entry hentry
    have hne := List.lookup_eq_none_iff.1 h entry hentry
    exact bne_iff_ne.2 fun heq => by simp [heq] at hne
  obtain ⟨entries, nodup⟩ := store
  simp only [erase, hothers]

end Store

namespace Session

variable (s : Session) (env : Environment) (disk : Disk)

/-- A question for a definition changes nothing. -/
theorem session_definition (uri : Text) (position : Position) :
    (s.handle env disk (.definition uri position)).session = s := by
  simp only [handle, answer]
  split
  · rfl
  · split
    · rfl
    · simp only [define]
      split
      · rfl
      · split <;> rfl

/-- Only messages about documents reach the store. -/
theorem documents_handle_of_aside {message : Message} (h : message.document? = none) :
    (s.handle env disk message).session.documents = s.documents := by
  cases message with
  | introduction said => rfl
  | ready => rfl
  | opened uri language version text => cases h
  | changed uri version changes => cases h
  | closed uri => cases h
  | configured value => rfl
  | definition uri position => rw [session_definition]

/-- **A message about a URI that is no URL changes nothing.** -/
theorem session_handle_of_error {message : Message} {uri : Text} {e : UrlError}
    (hm : message.document? = some uri) (h : Url.parse uri = .error e) :
    (s.handle env disk message).session = s := by
  cases message <;> cases hm <;>
    simp [handle, openDocument, changeDocument, closeDocument, h]

/-- **A change of a document that is not open changes nothing.** -/
theorem session_changed_of_none {uri : Text} {url : Url} (version : Int)
    (changes : List Change) (h : Url.parse uri = .ok url) (hnone : s.documents.text? url = none) :
    (s.handle env disk (.changed uri version changes)).session = s := by
  simp [handle, changeDocument, h, hnone]

/-- **Closing a document that is not open changes nothing.** -/
theorem session_closed_of_none {uri : Text} {url : Url} (h : Url.parse uri = .ok url)
    (hnone : s.documents.text? url = none) :
    (s.handle env disk (.closed uri)).session = s := by
  have hget : s.documents.get? url = none := by simpa [Store.text?] using hnone
  simp [handle, closeDocument, h, Store.erase_of_get?_eq_none hget]

theorem documents_opened {uri : Text} {url : Url} (language : String) (version : Int)
    (text : Text) (h : Url.parse uri = .ok url) :
    (s.handle env disk (.opened uri language version text)).session.documents =
      s.documents.insert url (.ofText text (some language) (some version)) := by
  simp [handle, openDocument, h]

theorem documents_closed {uri : Text} {url : Url} (h : Url.parse uri = .ok url) :
    (s.handle env disk (.closed uri)).session.documents = s.documents.erase url := by
  simp [handle, closeDocument, h]

theorem text?_changed {uri text : Text} {url : Url} (version : Int) (changes : List Change)
    (h : Url.parse uri = .ok url) (htext : s.documents.text? url = some text) (other : Url) :
    (s.handle env disk (.changed uri version changes)).session.documents.text? other =
      if other = url then some (Change.applyAll changes text) else s.documents.text? other := by
  obtain ⟨document, hget, rfl⟩ := Option.map_eq_some_iff.1 htext
  simp [handle, changeDocument, h, htext, Store.update, hget, Store.text?_insert,
    Document.revise]

end Session

/-! ### Client and store -/

/-- **The store mirrors the client**: it holds a text under a URL exactly when the client has
it open under one of the given URIs, with that URL. -/
def Client.MirroredBy (documents : Set Text) (client : Client) (store : Store) : Prop :=
  ∀ url text, store.text? url = some text ↔
    ∃ uri ∈ documents, Url.parse uri = .ok url ∧ client uri = some text

namespace Client.MirroredBy

variable {documents : Set Text} {client : Client} {store : Store}

theorem start : Client.idle.MirroredBy documents .empty := by
  intro url text
  refine ⟨fun h => ?_, ?_⟩
  · rw [Store.text?_empty] at h
    cases h
  · rintro ⟨uri, -, -, h⟩
    cases h

/-- What the client has open is in the store. -/
theorem text?_of_open (h : client.MirroredBy documents store) {uri text : Text} {url : Url}
    (huri : uri ∈ documents) (hurl : Url.parse uri = .ok url) (hopen : client uri = some text) :
    store.text? url = some text :=
  (h url text).2 ⟨uri, huri, hurl, hopen⟩

/-- What the client does not have open is not in the store. -/
theorem text?_of_not_open (h : client.MirroredBy documents store) {url : Url}
    (hnone : ∀ uri ∈ documents, Url.parse uri = .ok url → client uri = none) :
    store.text? url = none := by
  rw [Option.eq_none_iff_forall_ne_some]
  intro text htext
  obtain ⟨uri, huri, hurl, hopen⟩ := (h url text).1 htext
  rw [hnone uri huri hurl] at hopen
  cases hopen

/-- **One copy and one entry change together.** -/
theorem update (h : client.MirroredBy documents store) (hdistinct : DistinctUrls documents)
    {uri : Text} {url : Url} (huri : uri ∈ documents) (hurl : Url.parse uri = .ok url)
    {store' : Store} (new : Option Text)
    (hstore : ∀ other, store'.text? other = if other = url then new else store.text? other) :
    MirroredBy documents (Function.update client uri new) store' := by
  intro other text
  rw [hstore other]
  by_cases hother : other = url
  · rw [if_pos hother]
    subst hother
    refine ⟨fun hnew => ⟨uri, huri, hurl, by rw [Function.update_self, hnew]⟩, ?_⟩
    rintro ⟨uri', huri', hurl', hopen⟩
    rwa [hdistinct uri' huri' uri huri other hurl' hurl, Function.update_self] at hopen
  · rw [if_neg hother, h other text]
    -- a URI with another URL is another URI, so its copy is as before
    have hsame : ∀ uri', Url.parse uri' = .ok other →
        Function.update client uri new uri' = client uri' := by
      intro uri' hurl'
      refine Function.update_of_ne ?_ _ _
      rintro rfl
      rw [hurl'] at hurl
      exact hother (Except.ok.inj hurl)
    constructor
    · rintro ⟨uri', huri', hurl', hopen⟩
      exact ⟨uri', huri', hurl', by rw [hsame uri' hurl', hopen]⟩
    · rintro ⟨uri', huri', hurl', hopen⟩
      exact ⟨uri', huri', hurl', by rw [← hsame uri' hurl', hopen]⟩

/-- A copy under a URI that is no URL is none of the store's business. -/
theorem update_of_error (h : client.MirroredBy documents store) {uri : Text} {e : UrlError}
    (hurl : Url.parse uri = .error e) (new : Option Text) :
    MirroredBy documents (Function.update client uri new) store := by
  have hsame : ∀ uri' url, Url.parse uri' = .ok url →
      Function.update client uri new uri' = client uri' := by
    intro uri' url hurl'
    refine Function.update_of_ne ?_ _ _
    rintro rfl
    rw [hurl'] at hurl
    cases hurl
  intro url text
  rw [h url text]
  constructor
  · rintro ⟨uri', huri', hurl', hopen⟩
    exact ⟨uri', huri', hurl', by rw [hsame uri' url hurl', hopen]⟩
  · rintro ⟨uri', huri', hurl', hopen⟩
    exact ⟨uri', huri', hurl', by rw [← hsame uri' url hurl', hopen]⟩

/-- **One message keeps the mirror.** -/
theorem step {session : Session} (h : client.MirroredBy documents session.documents)
    (hdistinct : DistinctUrls documents) {client' : Client} {message : Message}
    (huri : ∀ uri, message.document? = some uri → uri ∈ documents)
    (hsent : client.Sends message client') (env : Environment) (disk : Disk) :
    client'.MirroredBy documents (session.handle env disk message).session.documents := by
  cases hsent with
  | aside haside =>
    rw [session.documents_handle_of_aside env disk haside]
    exact h
  | opened uri language version text =>
    rcases hurl : Url.parse uri with e | url
    · rw [session.session_handle_of_error env disk rfl hurl]
      exact h.update_of_error hurl _
    · refine h.update hdistinct (huri uri rfl) hurl _ fun other => ?_
      rw [session.documents_opened env disk language version text hurl, Store.text?_insert,
        Document.text_ofText]
  | @edited uri copy version edits hopen hfair =>
    rcases hurl : Url.parse uri with e | url
    · rw [session.session_handle_of_error env disk rfl hurl]
      exact h.update_of_error hurl _
    · -- the store holds the client's copy, so the report is about the text it was made from
      have htext := h.text?_of_open (huri uri rfl) hurl hopen
      refine h.update hdistinct (huri uri rfl) hurl _ fun other => ?_
      rw [session.text?_changed env disk version _ hurl htext, Edit.applyAll_reportAll hfair]
  | closed uri =>
    rcases hurl : Url.parse uri with e | url
    · rw [session.session_handle_of_error env disk rfl hurl]
      exact h.update_of_error hurl _
    · refine h.update hdistinct (huri uri rfl) hurl _ fun other => ?_
      rw [session.documents_closed env disk hurl, Store.text?_erase]
  | @stray uri version changes hopen =>
    rcases hurl : Url.parse uri with e | url
    · rw [session.session_handle_of_error env disk rfl hurl]
      exact h
    · -- no other document of the client can be meant
      have htext : session.documents.text? url = none := by
        refine h.text?_of_not_open fun uri' huri' hurl' => ?_
        rwa [hdistinct uri' huri' uri (huri uri rfl) url hurl' hurl]
      rw [session.session_changed_of_none env disk version changes hurl htext]
      exact h

end Client.MirroredBy

/-! ### Whole exchanges -/

namespace Exchange

variable {documents : Set Text} {client : Client} {session : Session}

theorem mirroredBy (h : Exchange documents client session) (hdistinct : DistinctUrls documents) :
    client.MirroredBy documents session.documents := by
  induction h with
  | start => exact Client.MirroredBy.start
  | step _ env disk huri hsent ih => exact ih.step hdistinct huri hsent env disk

/-- A client has nothing open but the given documents. -/
theorem mem_of_open (h : Exchange documents client session) {uri text : Text}
    (hopen : client uri = some text) : uri ∈ documents := by
  induction h generalizing text with
  | start => cases hopen
  | @step client client' session message before env disk huri hsent ih =>
    by_cases hm : message.document? = some uri
    · exact huri uri hm
    · rw [hsent.eq_of_ne hm] at hopen
      exact ih hopen

theorem text?_eq_some_iff (h : Exchange documents client session)
    (hdistinct : DistinctUrls documents) (url : Url) (text : Text) :
    session.documents.text? url = some text ↔
      ∃ uri, Url.parse uri = .ok url ∧ client uri = some text := by
  rw [h.mirroredBy hdistinct url text]
  constructor
  · rintro ⟨uri, -, hurl, hopen⟩
    exact ⟨uri, hurl, hopen⟩
  · rintro ⟨uri, hurl, hopen⟩
    exact ⟨uri, h.mem_of_open hopen, hurl, hopen⟩

/-- **A message about no open document changes nothing.** -/
theorem session_of_pointless (h : Exchange documents client session)
    (hdistinct : DistinctUrls documents) {message : Message} (hm : client.Pointless message)
    (env : Environment) (disk : Disk) : (session.handle env disk message).session = session := by
  have hnone : ∀ {uri : Text} {url : Url}, client.NotOpen uri → Url.parse uri = .ok url →
      session.documents.text? url = none := by
    intro uri url hnot hurl
    refine (h.mirroredBy hdistinct).text?_of_not_open fun other _ hother => ?_
    exact hnot other (hother.trans hurl.symm)
  cases hm with
  | rejected hm hurl => exact session.session_handle_of_error env disk hm hurl
  | @changed uri version changes hnot =>
    rcases hurl : Url.parse uri with e | url
    · exact session.session_handle_of_error env disk rfl hurl
    · exact session.session_changed_of_none env disk version changes hurl (hnone hnot hurl)
  | @closed uri hnot =>
    rcases hurl : Url.parse uri with e | url
    · exact session.session_handle_of_error env disk rfl hurl
    · exact session.session_closed_of_none env disk hurl (hnone hnot hurl)

/-- **Client and session never drift apart.** After any exchange the store holds exactly the
documents that the client has open, with exactly the client's texts; and a message about no
open document leaves the session as it is. -/
theorem store_mirrors_client (hdistinct : DistinctUrls documents)
    (h : Exchange documents client session) :
    (∀ url text, session.documents.text? url = some text ↔
      ∃ uri, Url.parse uri = .ok url ∧ client uri = some text) ∧
    ∀ env disk message, client.Pointless message →
      (session.handle env disk message).session = session :=
  ⟨h.text?_eq_some_iff hdistinct, fun env disk _ hm =>
    h.session_of_pointless hdistinct hm env disk⟩

/-- A client that opens one of two documents and replaces a surrogate pair on its second line,
then the end of that line, in one report. -/
theorem store_mirrors_client_two_edits :
    let documents : Set Text := {"file:///a%20b.html".toList, "file:///b.html".toList}
    DistinctUrls documents ∧ ∃ client session, Exchange documents client session ∧
      client "file:///a%20b.html".toList = some "x\r\n-zé".toList ∧
      session.documents.text? ⟨Url.fileScheme, some .empty, "/a%20b.html".toList, none, none⟩ =
        some "x\r\n-zé".toList := by
  intro documents
  have hfirst : Url.parse "file:///a%20b.html".toList =
      .ok ⟨Url.fileScheme, some .empty, "/a%20b.html".toList, none, none⟩ := by rfl
  have hsecond : Url.parse "file:///b.html".toList =
      .ok ⟨Url.fileScheme, some .empty, "/b.html".toList, none, none⟩ := by rfl
  have hdistinct : DistinctUrls documents := by
    rintro uri (rfl | rfl) other (rfl | rfl) url h h'
    · rfl
    · rw [hfirst] at h
      rw [hsecond, ← h] at h'
      cases h'
    · rw [hsecond] at h
      rw [hfirst, ← h] at h'
      cases h'
    · rfl
  have hmem : "file:///a%20b.html".toList ∈ documents := Or.inl rfl
  let env : Environment := ⟨none, none, none⟩
  let disk : Disk := fun _ => .error .notFound
  have hopen : Client.Sends Client.idle _ _ :=
    .opened "file:///a%20b.html".toList "html" 1 "x\r\n😀y".toList
  have hopened := (Exchange.start).step env disk (by rintro uri ⟨⟩; exact hmem) hopen
  have hfair : Edit.FairAll [.replace 3 4 "-".toList, .replace 4 5 "zé".toList]
      "x\r\n😀y".toList := by
    simp [Edit.FairAll, Edit.Fair, Edit.apply, Text.SplitsBreak]
  have hsent := Client.Sends.edited 2 _
    (Function.update_self "file:///a%20b.html".toList (some "x\r\n😀y".toList) Client.idle) hfair
  have hedited := hopened.step env disk (by rintro uri ⟨⟩; exact hmem) hsent
  refine ⟨hdistinct, _, _, hedited, by rfl, ?_⟩
  exact ((store_mirrors_client hdistinct hedited).1 _ _).2
    ⟨_, hfirst, by rfl⟩

end Exchange

end Signpost
