import Mathlib.Data.FinEnum
import Signpost.Proofs.Protocol.Definition
import Signpost.Proofs.Url.Canonical
import Signpost.Proofs.Url.Sendable

/-!
# What a server makes of its targets

Twice on the way from a document to an answer a path becomes a URL, and each time something can
be lost.

* **On the way out**, the URL of a target must be a URI, or the answer is empty. So a reference
  that resolves is answered with its target exactly if the path of the target holds none of four
  bytes: `Signpost.Server.Run.response_of_reference`.
* **On the way in**, a path counts as open if a document is open under the URL that is written for
  the path. A client may write another one. So an open document is a target by itself exactly if
  its URL is canonical: `Signpost.Server.Run.probe_of_open`.
-/

namespace Signpost

/-! ### Targets -/

/-- **The URL of a target is a URI exactly if none of the four bytes is in its path.** -/
theorem Evidence.isValid_href_iff {grammar : Grammar} {s : Snapshot} {position : Position}
    {limit : Nat} {probe : Probe} (e : Evidence grammar s position limit probe) :
    Uri.isValid e.target.url.href = true ↔ ∀ b ∈ e.target.path.bytes, b ∉ Url.unsendable := by
  have habs := Path.isAbsolute_join (Url.isAbsolute_directory? e.directory_eq)
    (.ofText e.token.content)
  have hurl := e.url_eq
  rw [e.path_eq] at hurl ⊢
  exact Url.isValid_href_clean habs hurl

namespace Session

variable {s : Session} {env : Environment} {disk : Disk} {uri : Text} {position : Position}
  {url : Url} {document : Document} {grammar : Grammar} {r : Reference}

/-- **What becomes of a reference that resolves**: its target is named if its URL is a URI, and
otherwise nothing is. -/
theorem destination_of_reference (hurl : Url.parse uri = .ok url)
    (hopen : s.documents.get? url = some document)
    (hgrammar : Grammar.detect? s.settings document.language url = some grammar)
    (hr : (resolve grammar (Snapshot.mk url document).source position s.settings.backwardLines
      (s.documents.probe disk)).reference? = some r) :
    (s.handle env disk (.definition uri position)).destination =
      if Uri.isValid r.target.url.href then some (destinationTo s.links r.origin r.target.url.href)
      else none := by
  split
  · rename_i hvalid
    exact destination_definition_eq_some_iff.2
      ⟨url, document, grammar, r, hurl, hopen, hgrammar, hr, hvalid, rfl⟩
  · rename_i hinvalid
    rw [Option.eq_none_iff_forall_ne_some]
    intro destination hdestination
    -- whatever was named would be this target
    obtain ⟨url', document', grammar', r', hurl', hopen', hgrammar', hr', hvalid, -⟩ :=
      destination_definition_eq_some_iff.1 hdestination
    obtain rfl := Except.ok.inj (hurl.symm.trans hurl')
    obtain rfl := Option.some.inj (hopen.symm.trans hopen')
    obtain rfl := Option.some.inj (hgrammar.symm.trans hgrammar')
    obtain rfl := Option.some.inj (hr.symm.trans hr')
    exact hinvalid hvalid

end Session

namespace Server

variable {server : Server} {env : Environment} {disk : Disk} {envelope : Envelope} {id : Json}
  {uri : Text} {position : Position}

/-- A server that works answers a question for a definition that it understands. -/
theorem response_definition (hphase : server.phase = .working)
    (hmethod : envelope.method = "textDocument/definition") (hid : envelope.id = some id)
    (hread : read envelope Params.definition = .ok (.definition uri position)) :
    (server.receive env disk envelope).response =
      some ⟨id, .ok (ofDestination
        (server.session.handle env disk (.definition uri position)).destination)⟩ := by
  have hdefinition : Standard.Method.ofName envelope.method = .definition := by
    rw [hmethod]
    rfl
  simp only [receive, hdefinition, hphase, work, hid, hread, handle]

/-! ### Some servers -/

/-- A client that understands links introduces itself. -/
def hello : Envelope :=
  ⟨"initialize", some (.obj [("capabilities", .obj [("textDocument",
    .obj [("definition", .obj [("linkSupport", .bool true)])])])]), some (.ofNat 1)⟩

/-- A client opens a page. -/
def opening (page : String × String) : Envelope :=
  ⟨"textDocument/didOpen", some (.arr [.arr [.str page.1, .str "html", .ofNat 1, .str page.2]]),
    none⟩

/-- A client asks about a place in a document. -/
def asking (uri : String) (position : Position) : Envelope :=
  ⟨"textDocument/definition", some (.obj [("textDocument", .arr [.str uri]),
    ("position", .arr [.ofNat position.line, .ofNat position.character])]), some (.ofNat 2)⟩

/-- **A server in use**: a client has introduced itself and opened some pages, each given by its
URI and its text. -/
def withPages (env : Environment) (disk : Disk) (pages : List (String × String)) : Server :=
  pages.foldl (fun server page => (server.receive env disk (opening page)).server)
    (fresh.receive env disk hello).server

theorem exists_run_withPages (env : Environment) (disk : Disk) (pages : List (String × String)) :
    ∃ history, Run history (withPages env disk pages) := by
  have hmore : ∀ {history : List Message} {server : Server}, Run history server →
      ∃ history', Run history' (pages.foldl
        (fun server page => (server.receive env disk (opening page)).server) server) := by
    induction pages with
    | nil => exact fun h => ⟨_, h⟩
    | cons page pages ih => exact fun h => ih (h.step env disk (opening page))
  exact hmore (Run.start.step env disk hello)

/-- A question that is understood. -/
theorem read_asking : read (asking "file:///a/b.html" ⟨0, 9⟩) Params.definition =
    .ok (.definition "file:///a/b.html".toList ⟨0, 9⟩) := by
  simp only [read, asking, Params.definition, Shape.mixture, Shape.checkMembers, mergeSort_pair]
  rfl

/-! ### The way out -/

/-- **A reference that resolves is answered with its target**, if the path of the target holds
none of the four bytes that a URI may not hold. If it holds one of them, the answer is the same as
if nothing had been found. -/
theorem Run.response_of_reference {history : List Message} (h : Run history server)
    (hphase : server.phase = .working) (hmethod : envelope.method = "textDocument/definition")
    (hid : envelope.id = some id)
    (hread : read envelope Params.definition = .ok (.definition uri position))
    {url : Url} (hurl : Url.parse uri = .ok url) {document : Document}
    (hopen : documentsAfter history url = some document) {grammar : Grammar}
    (hgrammar : Grammar.detect? server.session.settings document.language url = some grammar)
    {r : Reference}
    (hr : (resolve grammar (Snapshot.mk url document).source position
      server.session.settings.backwardLines (server.session.documents.probe disk)).reference? =
        some r) :
    (server.receive env disk envelope).response =
      some ⟨id, .ok (if ∀ b ∈ r.target.path.bytes, b ∉ Url.unsendable
        then .arr [location server.session.links r.origin r.target.url.href] else .null)⟩ := by
  obtain ⟨e, he⟩ := exists_evidence hr
  have htarget : r.target = e.target := congrArg Reference.target he
  have hvalid := e.isValid_href_iff
  rw [← htarget] at hvalid
  rw [← h.get?_eq] at hopen
  rw [response_definition hphase hmethod hid hread,
    Session.destination_of_reference hurl hopen hgrammar hr]
  by_cases hsendable : ∀ b ∈ r.target.path.bytes, b ∉ Url.unsendable
  · rw [if_pos hsendable, if_pos (hvalid.2 hsendable), ofDestination_destinationTo]
  · rw [if_neg hsendable, if_neg fun hv => hsendable (hvalid.1 hv)]
    rfl

/-- A page that includes another one, with a blank in its name. -/
theorem Run.response_of_reference_blank :
    let env : Environment := ⟨none, none, none⟩
    let disk : Disk := fun p =>
      if p = .ofString "/a/c d.html" then .ok (.file []) else .error .notFound
    let server := withPages env disk [("file:///a/b.html", "<!-- \x7b\x7b c d.html \x7d\x7d -->")]
    (server.receive env disk (asking "file:///a/b.html" ⟨0, 9⟩)).response =
      some ⟨.ofNat 2, .ok (.arr [location (some true) ⟨⟨0, 8⟩, ⟨0, 16⟩⟩
        "file:///a/c%20d.html".toList])⟩ := by
  intro env disk server
  obtain ⟨history, hrun⟩ : ∃ history, Run history server := exists_run_withPages env disk _
  let url : Url := ⟨Url.fileScheme, some .empty, "/a/b.html".toList, none, none⟩
  let document : Document :=
    .ofText "<!-- \x7b\x7b c d.html \x7d\x7d -->".toList (some "html") (some 1)
  let r : Reference := ⟨⟨⟨0, 8⟩, ⟨0, 16⟩⟩, ⟨.ofString "/a/c d.html",
    ⟨Url.fileScheme, some .empty, "/a/c%20d.html".toList, none, none⟩⟩⟩
  -- the server is run once, for all that is asked of it
  obtain ⟨hphase, hlinks, hget, hgrammar, hr⟩ : server.phase = .working ∧
      server.session.links = some true ∧ server.session.documents.get? url = some document ∧
      Grammar.detect? server.session.settings document.language url = some .page ∧
      (resolve .page (Snapshot.mk url document).source ⟨0, 9⟩
        server.session.settings.backwardLines (server.session.documents.probe disk)).reference? =
          some r := by decide +kernel
  have hurl : Url.parse "file:///a/b.html".toList = .ok url := by decide +kernel
  have hsendable : ∀ b ∈ r.target.path.bytes, b ∉ Url.unsendable := by decide +kernel
  have hhref : r.target.url.href = "file:///a/c%20d.html".toList := by decide +kernel
  have hresponse : (server.receive env disk (asking "file:///a/b.html" ⟨0, 9⟩)).response = _ :=
    hrun.response_of_reference hphase rfl rfl read_asking hurl (hrun.get?_eq ▸ hget) hgrammar hr
  rwa [if_pos hsendable, hlinks, hhref] at hresponse

/-- A page that includes another one, with brackets in its name. The page is there, the reference
resolves to it, and the answer is empty. -/
theorem Run.response_null_of_brackets :
    let env : Environment := ⟨none, none, none⟩
    let disk : Disk := fun p =>
      if p = .ofString "/a/c[1].html" then .ok (.file []) else .error .notFound
    let server := withPages env disk
      [("file:///a/b.html", "<!-- \x7b\x7b c[1].html \x7d\x7d -->")]
    let url : Url := ⟨Url.fileScheme, some .empty, "/a/b.html".toList, none, none⟩
    let document : Document :=
      .ofText "<!-- \x7b\x7b c[1].html \x7d\x7d -->".toList (some "html") (some 1)
    let r : Reference := ⟨⟨⟨0, 8⟩, ⟨0, 17⟩⟩, ⟨.ofString "/a/c[1].html",
      ⟨Url.fileScheme, some .empty, "/a/c[1].html".toList, none, none⟩⟩⟩
    (∃ history, Run history server ∧ documentsAfter history url = some document) ∧
      Grammar.detect? server.session.settings document.language url = some .page ∧
      (resolve .page (Snapshot.mk url document).source ⟨0, 9⟩
        server.session.settings.backwardLines (server.session.documents.probe disk)).reference? =
          some r ∧
      (server.receive env disk (asking "file:///a/b.html" ⟨0, 9⟩)).response =
        some ⟨.ofNat 2, .ok .null⟩ := by
  intro env disk server url document r
  obtain ⟨history, hrun⟩ : ∃ history, Run history server := exists_run_withPages env disk _
  obtain ⟨hphase, hget, hgrammar, hr, hnothing⟩ : server.phase = .working ∧
      server.session.documents.get? url = some document ∧
      Grammar.detect? server.session.settings document.language url = some .page ∧
      (resolve .page (Snapshot.mk url document).source ⟨0, 9⟩
        server.session.settings.backwardLines (server.session.documents.probe disk)).reference? =
          some r ∧
      (server.session.handle env disk
        (.definition "file:///a/b.html".toList ⟨0, 9⟩)).destination = none := by decide +kernel
  refine ⟨⟨history, hrun, hrun.get?_eq ▸ hget⟩, hgrammar, hr, ?_⟩
  rw [response_definition hphase rfl rfl read_asking, hnothing]
  rfl

/-! ### The way in -/

/-- **When an open document is accepted as a target**, under the path of its URL: its URL is
canonical, or the path is accepted anyway, because another document is open under the canonical
URL or because the disk has a file there. -/
theorem Run.probe_of_open {history : List Message} (h : Run history server) {url : Url}
    {document : Document} (hopen : documentsAfter history url = some document) {p : Path}
    (hpath : url.toPath? = some p) (disk : Disk) :
    server.session.documents.probe disk p = .ok () ↔
      url.IsCanonical ∨
      (∃ other there, other ≠ url ∧ Url.ofPath? p = some other ∧
        documentsAfter history other = some there) ∨
      ∃ bytes, disk p = .ok (.file bytes) := by
  obtain ⟨canonical, hcanonical⟩ := Url.exists_ofPath? (Url.isAbsolute_toPath? hpath)
  have hself := Url.ofPath?_eq_some_iff_isCanonical hpath
  rw [Store.probe_eq_ok_iff hcanonical, h.get?_eq]
  constructor
  · rintro (⟨there, hthere⟩ | hfile)
    · by_cases hsame : canonical = url
      · rw [hsame] at hcanonical
        exact Or.inl (hself.1 hcanonical)
      · exact Or.inr (Or.inl ⟨canonical, there, hsame, hcanonical, hthere⟩)
    · exact Or.inr (Or.inr hfile)
  · rintro (hurl | ⟨other, there, -, hother, hthere⟩ | hfile)
    · obtain rfl := Option.some.inj (hcanonical.symm.trans (hself.2 hurl))
      exact Or.inl ⟨document, hopen⟩
    · obtain rfl := Option.some.inj (hcanonical.symm.trans hother)
      exact Or.inl ⟨there, hthere⟩
    · exact Or.inr hfile

/-- A page that is open under a canonical URL, with a blank escaped and an at sign as it is. There
is no file. -/
theorem Run.probe_of_open_blank :
    let env : Environment := ⟨none, none, none⟩
    let disk : Disk := fun _ => .error .notFound
    let server := withPages env disk [("file:///a/c%20d@2.html", "")]
    server.session.documents.probe disk (.ofString "/a/c d@2.html") = .ok () := by
  intro env disk server
  obtain ⟨history, hrun⟩ : ∃ history, Run history server := exists_run_withPages env disk _
  let url : Url := ⟨Url.fileScheme, some .empty, "/a/c%20d@2.html".toList, none, none⟩
  have hopen : documentsAfter history url = some (.ofText [] (some "html") (some 1)) := by
    rw [← hrun.get?_eq]
    decide +kernel
  have hpath : url.toPath? = some (.ofString "/a/c d@2.html") := by decide +kernel
  have hwritten : ∀ segment ∈ ["a".toList, "c%20d@2.html".toList], Url.IsWritten segment := by
    decide +kernel
  have hcanonical : url.IsCanonical :=
    ⟨rfl, rfl, rfl, rfl, Or.inr ⟨_, by decide +kernel, hwritten⟩⟩
  exact (hrun.probe_of_open hopen hpath disk).2 (Or.inl hcanonical)

/-- A page that is open under another URL, with the at sign escaped as well. It is not accepted
as a target. -/
theorem Run.probe_error_of_escaped :
    let env : Environment := ⟨none, none, none⟩
    let disk : Disk := fun _ => .error .notFound
    let server := withPages env disk [("file:///a/c%402.html", "")]
    let url : Url := ⟨Url.fileScheme, some .empty, "/a/c%402.html".toList, none, none⟩
    (∃ history, Run history server ∧
      documentsAfter history url = some (.ofText [] (some "html") (some 1))) ∧
      url.toPath? = some (.ofString "/a/c@2.html") ∧
      server.session.documents.probe disk (.ofString "/a/c@2.html") = .error .notFound := by
  intro env disk server url
  obtain ⟨history, hrun⟩ : ∃ history, Run history server := exists_run_withPages env disk _
  have hopen : documentsAfter history url = some (.ofText [] (some "html") (some 1)) := by
    rw [← hrun.get?_eq]
    decide +kernel
  exact ⟨⟨history, hrun, hopen⟩, by decide +kernel, by decide +kernel⟩

end Server

end Signpost
