import Signpost.Proofs.Session.Answer

/-!
# When the language of a document decides alone

A document is read by the grammar of its language, and by that of its extension when the language
leads to none. A language can lead to no grammar in two ways: no grammar lists it, or those that do
are switched off. **The search does not tell the two apart**
(`Signpost.Grammar.detect?_of_not_serves`). So to know a language is not enough for it to decide
alone: some grammar has to be switched on for it (`Signpost.Settings.Serves`), or else none for any
language that an extension stands for, and this is exactly when it does
(`Signpost.Grammar.detect?_eq_detect?_iff`).

A page whose grammar is switched off and whose URL ends like that of a script is therefore read as
a script: `Signpost.Grammar.detect?_slips`.
-/

namespace Signpost

/-! ### Languages -/

/-- The languages that a grammar is for, switched on or not. -/
def Grammar.Lists (settings : Settings) : Grammar → String → Prop
  | page, language => language ∈ settings.pageLanguages
  | script, language => language ∈ settings.scriptLanguages

/-- **A language that is served**: a grammar that lists it is switched on. -/
def Settings.Serves (settings : Settings) (language : String) : Prop :=
  ∃ grammar : Grammar, grammar.IsOn settings ∧ grammar.Lists settings language

/-- **The languages that extensions stand for.** -/
def Language.implied : List String :=
  ["html", "javascript", "javascriptreact", "typescript", "typescriptreact"]

namespace Language

theorem mem_implied_of_ofExtension? {extension language : String}
    (h : ofExtension? extension = some language) : language ∈ implied := by
  unfold ofExtension? at h
  split at h
  case h_11 => cases h
  all_goals
    obtain rfl := Option.some.inj h
    decide

theorem mem_implied_of_ofUrl? {url : Url} {language : String} (h : ofUrl? url = some language) :
    language ∈ implied := by
  obtain ⟨segments, -, h⟩ := Option.bind_eq_some_iff.1 h
  obtain ⟨name, -, h⟩ := Option.bind_eq_some_iff.1 h
  obtain ⟨extension, -, h⟩ := Option.bind_eq_some_iff.1 h
  exact mem_implied_of_ofExtension? h

/-- The file URL of a name at the root. -/
def urlNamed (name : String) : Url :=
  ⟨Url.fileScheme, some .empty, '/' :: name.toList, none, none⟩

/-- Some URL stands for each of them. -/
theorem exists_ofUrl?_of_mem_implied {language : String} (h : language ∈ implied) :
    ∃ url, ofUrl? url = some language := by
  simp only [implied, List.mem_cons, List.not_mem_nil, or_false] at h
  rcases h with rfl | rfl | rfl | rfl | rfl
  · exact ⟨urlNamed "a.html", by decide +kernel⟩
  · exact ⟨urlNamed "a.js", by decide +kernel⟩
  · exact ⟨urlNamed "a.jsx", by decide +kernel⟩
  · exact ⟨urlNamed "a.ts", by decide +kernel⟩
  · exact ⟨urlNamed "a.tsx", by decide +kernel⟩

/-- Others stand for none. -/
theorem ofUrl?_plain : ofUrl? (urlNamed "a") = none := by
  decide +kernel

end Language

namespace Grammar

variable {settings : Settings} {language : String}

/-- **A language leads to a grammar exactly if it is served.** -/
theorem exists_ofLanguage?_iff :
    (∃ grammar, ofLanguage? settings language = some grammar) ↔ settings.Serves language := by
  constructor
  · rintro ⟨grammar, h⟩
    refine ⟨grammar, isOn_of_ofLanguage? h, ?_⟩
    unfold ofLanguage? at h
    split at h
    · rename_i hpage
      obtain rfl := Option.some.inj h
      exact List.contains_iff_mem.1 (Bool.and_eq_true_iff.1 hpage).2
    · split at h
      · rename_i hscript
        obtain rfl := Option.some.inj h
        exact List.contains_iff_mem.1 (Bool.and_eq_true_iff.1 hscript).2
      · cases h
  · rintro ⟨grammar, hon, hlists⟩
    rw [ofLanguage?]
    cases grammar with
    | page =>
      have hon : settings.includes = true := hon
      have hlists : settings.pageLanguages.contains language = true :=
        List.contains_iff_mem.2 hlists
      exact ⟨.page, by rw [hon, hlists]; rfl⟩
    | script =>
      have hon : settings.workers = true := hon
      have hlists : settings.scriptLanguages.contains language = true :=
        List.contains_iff_mem.2 hlists
      rw [hon, hlists]
      split
      · exact ⟨.page, rfl⟩
      · exact ⟨.script, rfl⟩

theorem ofLanguage?_eq_none_iff :
    ofLanguage? settings language = none ↔ ¬ settings.Serves language := by
  rw [← exists_ofLanguage?_iff, Option.eq_none_iff_forall_ne_some, not_exists]

/-! ### The search for a grammar -/

/-- **A language that is served decides alone.** -/
theorem detect?_of_serves (h : settings.Serves language) (url : Url) :
    detect? settings (some language) url = ofLanguage? settings language := by
  obtain ⟨grammar, hgrammar⟩ := exists_ofLanguage?_iff.2 h
  rw [detect?, Option.bind_some, hgrammar]
  rfl

/-- **A language that is not served counts for nothing**, whether it is listed or not. -/
theorem detect?_of_not_serves (h : ¬ settings.Serves language) (url : Url) :
    detect? settings (some language) url = detect? settings none url := by
  rw [detect?, Option.bind_some, ofLanguage?_eq_none_iff.2 h]
  rfl

theorem detect?_none (url : Url) :
    detect? settings none url = (Language.ofUrl? url).bind (ofLanguage? settings) :=
  rfl

/-- Where no language of an extension is served, an extension leads to no grammar. -/
theorem detect?_none_eq_none (h : ∀ other ∈ Language.implied, ¬ settings.Serves other) (url : Url) :
    detect? settings none url = none := by
  rw [detect?_none, Option.bind_eq_none_iff]
  intro other hother
  exact ofLanguage?_eq_none_iff.2 (h other (Language.mem_implied_of_ofUrl? hother))

/-- **A language decides alone**, whatever the URL of the document, exactly if a grammar is
switched on for it, or for no language that an extension stands for. -/
theorem detect?_eq_detect?_iff (settings : Settings) (language : String) :
    (∀ u v : Url, detect? settings (some language) u = detect? settings (some language) v) ↔
      settings.Serves language ∨ ∀ other ∈ Language.implied, ¬ settings.Serves other := by
  constructor
  · intro halone
    by_contra hnot
    obtain ⟨hopen, hsome⟩ := not_or.1 hnot
    push Not at hsome
    obtain ⟨other, hother, hserves⟩ := hsome
    -- a URL with the extension, and one without any, come to different answers
    obtain ⟨url, hurl⟩ := Language.exists_ofUrl?_of_mem_implied hother
    obtain ⟨grammar, hgrammar⟩ := exists_ofLanguage?_iff.2 hserves
    have hsame := halone url (Language.urlNamed "a")
    rw [detect?_of_not_serves hopen, detect?_of_not_serves hopen, detect?_none, detect?_none, hurl,
      Language.ofUrl?_plain, Option.bind_some, hgrammar] at hsame
    cases hsame
  · rintro (hserves | hnone) u v
    · rw [detect?_of_serves hserves, detect?_of_serves hserves]
    · by_cases hserves : settings.Serves language
      · rw [detect?_of_serves hserves, detect?_of_serves hserves]
      · rw [detect?_of_not_serves hserves, detect?_of_not_serves hserves,
          detect?_none_eq_none hnone, detect?_none_eq_none hnone]

/-- A page, where includes are switched off: the language is known, and yet the extension decides.
Under the URL of a script it is read as one, under that of a style sheet it is not read at all. -/
theorem detect?_slips :
    let settings : Settings := { Settings.default with includes := false }
    Lists settings .page "html" ∧
      detect? settings (some "html") (Language.urlNamed "a.ts") = some .script ∧
      detect? settings (some "html") (Language.urlNamed "a.css") = none := by
  refine ⟨List.mem_cons_self, ?_, ?_⟩ <;> decide +kernel

end Grammar

end Signpost
