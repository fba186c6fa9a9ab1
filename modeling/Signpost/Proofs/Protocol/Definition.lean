import Signpost.Proofs.Session.Answer
import Signpost.Protocol.Server

/-!
# Every answer of a server is justified

Between the wire and the session stands a life cycle, which drops some messages and refuses
others. `Signpost.Server.handled?` says which message, if any, reaches the session, and
`Signpost.Server.session_receive` that nothing else changes it. So a run of a server
(`Signpost.Server.Run`) is known by the messages that were handled, and its documents are those
that these messages leave (`Signpost.Server.Run.get?_eq`).

That is what an answer has to be measured by. Whatever a server has been through, an answer to a
question for a definition that is not empty holds one location, and there is evidence for it in
the current document: `Signpost.Server.Run.justified_of_response`.
-/

namespace Signpost

namespace Server

/-! ### What reaches the session -/

/-- **The message that a server hands to its session**: an introduction while it waits for one,
then questions for definitions and the notifications that it knows. Requests have an id,
notifications have none, and the parameters must be understood. -/
def handled? (server : Server) (envelope : Envelope) : Option Message :=
  match server.phase, Standard.Method.ofName envelope.method, envelope.id with
  | .waiting, .introduction, some _ =>
    (read envelope Params.introduction).toOption.map .introduction
  | .working, .definition, some _ => (read envelope Params.definition).toOption
  | .working, .notification reader, none => (read envelope reader).toOption
  | _, _, _ => none

/-- A server that waits for an introduction handles nothing else. -/
theorem handled?_of_waiting (server : Server) (envelope : Envelope)
    (hphase : server.phase = .waiting)
    (hmethod : Standard.Method.ofName envelope.method ≠ .introduction) :
    server.handled? envelope = none := by
  rw [handled?, hphase]
  split
  · rename_i hintroduction _
    exact absurd hintroduction hmethod
  · rename_i hworking _ _
    cases hworking
  · rename_i hworking _ _
    cases hworking
  · rfl

/-- The session after a message that may have been handled. -/
def sessionAfter (server : Server) (env : Environment) (disk : Disk) :
    Option Message → Session
  | none => server.session
  | some message => (server.session.handle env disk message).session

theorem session_introduce (server : Server) (env : Environment) (disk : Disk)
    (envelope : Envelope) (hphase : server.phase = .waiting)
    (hmethod : Standard.Method.ofName envelope.method = .introduction) :
    (server.introduce env disk envelope).server.session =
      server.sessionAfter env disk (server.handled? envelope) := by
  rw [introduce, handled?, hphase, hmethod]
  rcases envelope.id with _ | id
  · rfl
  · rcases hread : read envelope Params.introduction with fault | said
    · simp [refuse, sessionAfter, Except.toOption]
    · simp [handle, sessionAfter, Except.toOption]

/-- A server that finishes keeps its session. -/
theorem session_finish (server : Server) (envelope : Envelope) :
    (server.finish envelope).server.session = server.session := by
  unfold finish
  dsimp only
  split <;> rfl

theorem session_work (server : Server) (env : Environment) (disk : Disk) (envelope : Envelope)
    (hphase : server.phase = .working) :
    (server.work env disk envelope (Standard.Method.ofName envelope.method)).server.session =
      server.sessionAfter env disk (server.handled? envelope) := by
  rw [handled?, hphase]
  cases Standard.Method.ofName envelope.method with
  | definition =>
    rcases hid : envelope.id with _ | id
    · simp [work, hid, sessionAfter]
    · rcases hread : read envelope Params.definition with fault | message
      · simp [work, hid, hread, refuse, sessionAfter, Except.toOption]
      · simp [work, hid, hread, handle, sessionAfter, Except.toOption]
  | notification reader =>
    rcases hid : envelope.id with _ | id
    · rcases hread : read envelope reader with fault | message
      · simp [work, hid, hread, sessionAfter, Except.toOption]
      · simp [work, hid, hread, handle, sessionAfter, Except.toOption]
    · simp [work, hid, refuse, sessionAfter]
  | notOffered shape =>
    rcases hread : read envelope shape with fault | fields
    · simp [work, hread, refuse, sessionAfter]
    · simp [work, hread, refuse, sessionAfter]
  | shutdown => exact server.session_finish envelope
  | introduction => rfl
  | exit => rfl
  | unnoticed => rfl
  | cancellation => rfl
  | unknown => rfl

/-- **Nothing but a message that is handled changes the session.** -/
theorem session_receive (server : Server) (env : Environment) (disk : Disk)
    (envelope : Envelope) :
    (server.receive env disk envelope).server.session =
      server.sessionAfter env disk (server.handled? envelope) := by
  unfold receive
  -- the phase and the method decide together; only two of the cases reach the session
  split
  · rename_i hphase
    simp [handled?, hphase, sessionAfter]
  · rename_i hmethod _
    simp [handled?, hmethod, sessionAfter]
  · rename_i hmethod _
    simp [handled?, hmethod, sessionAfter, refuse]
  · rename_i hmethod _
    split <;> simp [handled?, hmethod, sessionAfter, refuse]
  · rename_i hmethod hphase
    exact server.session_introduce env disk envelope hphase hmethod
  · rename_i hphase _ _ _ hmethod
    rw [server.handled?_of_waiting envelope hphase hmethod]
    rfl
  · rename_i hphase _ _ _
    simp [handled?, hphase, sessionAfter, refuse]
  · rename_i hphase _ _ _
    exact server.session_work env disk envelope hphase

/-! ### Runs -/

/-- **A server after some messages on the wire**, with the messages that it handled, in order.
The world may be another one at each message. -/
inductive Run : List Message → Server → Prop
  /-- Nothing has been received. -/
  | start : Run [] .fresh
  /-- One more message comes. -/
  | step {history : List Message} {server : Server} (before : Run history server)
      (env : Environment) (disk : Disk) (envelope : Envelope) :
    Run (history ++ (server.handled? envelope).toList) (server.receive env disk envelope).server

/-- **The store of a server holds the current documents.** -/
theorem Run.get?_eq {history : List Message} {server : Server} (h : Run history server) :
    server.session.documents.get? = documentsAfter history := by
  induction h with
  | start => rfl
  | @step history server before env disk envelope ih =>
    -- what is not handled leaves no trace in the history either
    rw [session_receive, documentsAfter_append, ← ih]
    cases server.handled? envelope with
    | none => rfl
    | some message => exact server.session.get?_handle env disk message

/-! ### Answers -/

/-- What is read as a question for a definition is one. -/
theorem exists_definition_of_read {envelope : Envelope} {message : Message}
    (h : read envelope Params.definition = .ok message) :
    ∃ uri position, message = .definition uri position := by
  unfold read at h
  split at h
  · cases h
  · rename_i params _
    simp only [Params.definition, bind, Except.bind] at h
    split at h
    · cases h
    · split at h
      · cases h
      · split at h
        · cases h
        · exact ⟨_, _, (Except.ok.inj h).symm⟩

/-- **What a question for a definition is answered from**: a server that works hands it to its
session, and what comes back is put on the wire. -/
theorem exists_destination_of_response {server : Server} {env : Environment} {disk : Disk}
    {envelope : Envelope} {id answer : Json} (hmethod : envelope.method = "textDocument/definition")
    (hresponse : (server.receive env disk envelope).response = some ⟨id, .ok answer⟩) :
    ∃ uri position, read envelope Params.definition = .ok (.definition uri position) ∧
      answer = ofDestination
        (server.session.handle env disk (.definition uri position)).destination := by
  have hdefinition : Standard.Method.ofName envelope.method = .definition := by
    rw [hmethod]
    rfl
  have hworking : (server.work env disk envelope .definition).response =
      some ⟨id, .ok answer⟩ := by
    rw [receive, hdefinition] at hresponse
    -- in every phase but one the question is refused
    rcases hphase : server.phase with _ | _ | _ | _
    · simp [hphase, refuse] at hresponse
    · simpa [hphase] using hresponse
    · simp [hphase, refuse] at hresponse
    · simp [hphase] at hresponse
  rw [work] at hworking
  rcases hid : envelope.id with _ | id'
  · simp [hid] at hworking
  rcases hread : read envelope Params.definition with fault | message
  · simp [hid, hread, refuse] at hworking
  obtain ⟨uri, position, rfl⟩ := exists_definition_of_read hread
  refine ⟨uri, position, rfl, ?_⟩
  have hanswer : id' = id ∧ ofDestination
      (server.session.handle env disk (.definition uri position)).destination = answer := by
    simpa [hid, hread, handle] using hworking
  exact hanswer.2.symm

/-- **A location on the wire**: the start of the target, with the range of the reference if the
client understands links. -/
def location (links : Option Bool) (origin : Range) (uri : Text) : Json :=
  if links.getD false then
    .obj [("originSelectionRange", ofRange origin), ("targetUri", .ofText uri),
      ("targetRange", ofRange .origin), ("targetSelectionRange", ofRange .origin)]
  else
    .obj [("uri", .ofText uri), ("range", ofRange .origin)]

theorem ofDestination_destinationTo (links : Option Bool) (origin : Range) (uri : Text) :
    ofDestination (some (Session.destinationTo links origin uri)) =
      .arr [location links origin uri] := by
  unfold Session.destinationTo location
  split <;> rfl

/-- **What justifies an answer** to a question for a definition, after the given messages. The
document is open, and a grammar that is switched on reads it. There is evidence in its current
text, at the position that was asked about, for a target that is open or a regular file. And the
answer is one location, the one that the evidence names. -/
def Justified (history : List Message) (server : Server) (disk : Disk) (envelope : Envelope)
    (answer : Json) : Prop :=
  ∃ uri position url document grammar,
    read envelope Params.definition = .ok (.definition uri position) ∧
    Url.parse uri = .ok url ∧
    documentsAfter history url = some document ∧
    Grammar.detect? server.session.settings document.language url = some grammar ∧
    grammar.IsOn server.session.settings ∧
    ∃ e : Evidence grammar ⟨url, document⟩ position server.session.settings.backwardLines
        (server.session.documents.probe disk),
      ((∃ there, documentsAfter history e.target.url = some there) ∨
        ∃ bytes, disk e.target.path = .ok (.file bytes)) ∧
      answer = .arr [location server.session.links (e.token.span.onLine position.line)
        e.target.url.href]

/-- **Every answer of a server is justified**, whatever messages it has received and whatever the
disk is like – unless it says that there is nothing to be found. -/
theorem Run.justified_of_response {history : List Message} {server : Server}
    (h : Run history server) {env : Environment} {disk : Disk} {envelope : Envelope}
    {id answer : Json} (hmethod : envelope.method = "textDocument/definition")
    (hresponse : (server.receive env disk envelope).response = some ⟨id, .ok answer⟩)
    (hanswer : answer ≠ .null) : Justified history server disk envelope answer := by
  obtain ⟨uri, position, hread, rfl⟩ := exists_destination_of_response hmethod hresponse
  rcases hdestination : (server.session.handle env disk
    (.definition uri position)).destination with _ | destination
  · rw [hdestination] at hanswer
    exact absurd rfl hanswer
  obtain ⟨url, document, grammar, r, hurl, hget, hgrammar, hr, -, rfl⟩ :=
    Session.destination_definition_eq_some_iff.1 hdestination
  obtain ⟨e, rfl⟩ := exists_evidence hr
  rw [h.get?_eq] at hget
  refine ⟨uri, position, url, document, grammar, hread, hurl, hget, hgrammar,
    Grammar.isOn_of_detect? hgrammar, e, ?_, ofDestination_destinationTo _ _ _⟩
  rw [← h.get?_eq]
  exact Store.probe_eq_ok e.url_eq e.accepted

/-- Members of an object are visited in the order of their names. -/
theorem mergeSort_pair (a b : String × Json) :
    [a, b].mergeSort (fun a b => decide (a.1 ≤ b.1)) = if a.1 ≤ b.1 then [a, b] else [b, a] := by
  by_cases h : a.1 ≤ b.1
  · simp [List.mergeSort, List.MergeSort.Internal.splitInTwo, h]
  · simp [List.mergeSort, List.MergeSort.Internal.splitInTwo, h]

/-- A server that is introduced to a client, has a script opened and one letter of it changed,
and is asked about the string that the change made a reference. -/
theorem Run.justified_after_edit :
    let env : Environment := ⟨none, none, none⟩
    let disk : Disk := fun p =>
      if p = .ofString "/a/c.js" then .ok (.file []) else .error .notFound
    let hello : Envelope := ⟨"initialize", some (.obj [("capabilities", .obj [("textDocument",
      .obj [("definition", .obj [("linkSupport", .bool true)])])])]), some (.ofNat 1)⟩
    let opening : Envelope := ⟨"textDocument/didOpen", some (.arr [.arr [.str "file:///a/b.ts",
      .str "typescript", .ofNat 1, .str "x\nnew\r\nWorker('../a/d.js')"]]), none⟩
    let editing : Envelope := ⟨"textDocument/didChange", some (.arr [.arr [.str "file:///a/b.ts",
      .ofNat 2], .arr [.arr [.arr [.arr [.ofNat 2, .ofNat 13], .arr [.ofNat 2, .ofNat 14]], .null,
      .str "c"]]]), none⟩
    let asking : Envelope := ⟨"textDocument/definition", some (.obj [("textDocument",
      .arr [.str "file:///a/b.ts"]), ("position", .arr [.ofNat 2, .ofNat 17])]),
      some (.ofNat 2)⟩
    let server := (((fresh.receive env disk hello).server.receive env disk opening).server.receive
      env disk editing).server
    let answer : Json := .arr [location (some true) ⟨⟨2, 8⟩, ⟨2, 17⟩⟩ "file:///a/c.js".toList]
    (server.receive env disk asking).response = some ⟨.ofNat 2, .ok answer⟩ ∧
      ∃ history, Run history server ∧ Justified history server disk asking answer := by
  intro env disk hello opening editing asking server answer
  have hphase : server.phase = .working := by decide +kernel
  have hread : read asking Params.definition =
      .ok (.definition "file:///a/b.ts".toList ⟨2, 17⟩) := by
    simp only [read, asking, Params.definition, Shape.mixture, Shape.checkMembers, mergeSort_pair]
    rfl
  have hdestination : (server.session.handle env disk
      (.definition "file:///a/b.ts".toList ⟨2, 17⟩)).destination =
      some (.link ⟨⟨2, 8⟩, ⟨2, 17⟩⟩ "file:///a/c.js".toList) := by decide +kernel
  have hresponse : (server.receive env disk asking).response = some ⟨.ofNat 2, .ok answer⟩ := by
    have hmethod : Standard.Method.ofName asking.method = .definition := rfl
    have hid : asking.id = some (.ofNat 2) := rfl
    simp only [receive, hmethod, hphase, work, hid, hread, handle, hdestination]
    rfl
  have hrun := ((Run.start.step env disk hello).step env disk opening).step env disk editing
  exact ⟨hresponse, _, hrun, hrun.justified_of_response rfl hresponse nofun⟩

end Server

end Signpost
