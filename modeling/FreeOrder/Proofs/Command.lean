import FreeOrder.Proofs.Classification
import FreeOrder.Proofs.SentenceReading

namespace FreeOrder

/-- A text that consists of the verb and, if there is an argument, of the object with the argument
as its content, before the verb or after it. -/
inductive Commands (name : String) : Option String → List Char → Prop
  | alone {verb : Word} (hverb : verb.term = .verb name) : Commands name none verb.text
  | verbFirst {verb object : Word} {content : String} {gap : List Char}
      (hverb : verb.term = .verb name)
      (hobject : object.term = .directObject ("\"" ++ content ++ "\""))
      (hgap : Text.IsBlank gap) (hne : gap ≠ []) :
      Commands name (some content) (verb.text ++ gap ++ object.text)
  | objectFirst {verb object : Word} {content : String} {gap : List Char}
      (hverb : verb.term = .verb name)
      (hobject : object.term = .directObject ("\"" ++ content ++ "\""))
      (hgap : Text.IsBlank gap) (hne : gap ≠ []) :
      Commands name (some content) (object.text ++ gap ++ verb.text)

/-- Terms that consist of the verb and, if there is an argument, of an object that is the argument
between quotes, before the verb or after it. -/
inductive Asks (name : String) : Option String → List Term → Prop
  | alone : Asks name none [.verb name]
  | verbFirst (literal : String) :
      Asks name (some (unquote literal)) [.verb name, .directObject literal]
  | objectFirst (literal : String) :
      Asks name (some (unquote literal)) [.directObject literal, .verb name]

theorem unquote_quoted (content : String) : unquote ("\"" ++ content ++ "\"") = content := by
  simp [unquote]

theorem isSpaced_singleton_iff {word : Word} {gap : List Char} :
    IsSpaced [(word, gap)] ↔ Text.IsBlank gap := by
  apply Iff.intro
  · intro h
    exact h.uncons.1
  · exact .last

theorem isSpaced_pair_iff {word word' : Word} {gap gap' : List Char} :
    IsSpaced [(word, gap), (word', gap')] ↔ Text.IsBlank gap ∧ gap ≠ [] ∧ Text.IsBlank gap' := by
  apply Iff.intro
  · intro h
    cases h with
    | cons hgap hne hwords => exact ⟨hgap, hne, isSpaced_singleton_iff.mp hwords⟩
  · intro h
    obtain ⟨hgap, hne, hgap'⟩ := h
    exact .cons hgap hne (.last hgap')

theorem exists_words_of_map_eq_pair {words : List (Word × List Char)} {term term' : Term}
    (h : words.map (·.1.term) = [term, term']) : ∃ word gap word' gap',
      words = [(word, gap), (word', gap')] ∧ word.term = term ∧ word'.term = term' := by
  obtain ⟨⟨word, gap⟩, rest, rfl, hterm, hrest⟩ := List.map_eq_cons_iff.mp h
  obtain ⟨⟨word', gap'⟩, rfl, hterm'⟩ := List.map_eq_singleton_iff.mp hrest
  exact ⟨word, gap, word', gap', rfl, hterm, hterm'⟩

theorem Word.exists_content {word : Word} {literal : String}
    (h : word.term = .directObject literal) :
    ∃ content : String, '"' ∉ content.toList ∧ literal = "\"" ++ content ++ "\"" := by
  have hwritable := word.writable
  rw [h] at hwritable
  exact hwritable

variable {name : String} {argument : Option String}

/-- Without a repeated role, a sentence that holds a verb has at most an object beside it. -/
theorem asks_of_nodup {terms : List Term} (h : (terms.map Term.role).Nodup)
    (hverb : textOf? .verb terms = some name) :
    Asks name ((textOf? .directObject terms).map unquote) terms := by
  match terms with
  | [] => cases hverb
  | [.verb _] =>
    cases hverb
    exact .alone
  | [.directObject _] => cases hverb
  | [.verb _, .directObject literal] =>
    cases hverb
    exact .verbFirst literal
  | [.directObject literal, .verb _] =>
    cases hverb
    exact .objectFirst literal
  | [.verb _, .verb _] | [.directObject _, .directObject _] => simp [Term.role] at h
  | first :: second :: third :: rest =>
    simp only [List.map_cons, List.nodup_cons, List.mem_cons, not_or] at h
    exact (h.1.1 (Role.eq_of_ne h.1.2.1 h.2.1.1)).elim

theorem Commands.exists_words {body tail : List Char} (h : Commands name argument body)
    (htail : Text.IsBlank tail) : ∃ words, IsSpaced words ∧ spell words = body ++ tail ∧
      Asks name argument (words.map (·.1.term)) := by
  cases h with
  | @alone verb hverb =>
    refine ⟨[(verb, tail)], .last htail, by simp, ?_⟩
    rw [List.map_singleton, hverb]
    exact .alone
  | @verbFirst verb object content gap hverb hobject hgap hne =>
    refine ⟨[(verb, gap), (object, tail)], .cons hgap hne (.last htail), by simp, ?_⟩
    have hasks : Asks name _ _ := .verbFirst ("\"" ++ content ++ "\"")
    rw [unquote_quoted] at hasks
    simpa only [List.map_cons, List.map_nil, hverb, hobject] using hasks
  | @objectFirst verb object content gap hverb hobject hgap hne =>
    refine ⟨[(object, gap), (verb, tail)], .cons hgap hne (.last htail), by simp, ?_⟩
    have hasks : Asks name _ _ := .objectFirst ("\"" ++ content ++ "\"")
    rw [unquote_quoted] at hasks
    simpa only [List.map_cons, List.map_nil, hverb, hobject] using hasks

theorem Asks.exists_commands {words : List (Word × List Char)} (hspaced : IsSpaced words)
    (h : Asks name argument (words.map (·.1.term))) :
    ∃ body tail, spell words = body ++ tail ∧ Text.IsBlank tail ∧ Commands name argument body := by
  generalize hterms : words.map (·.1.term) = terms at h
  cases h with
  | alone =>
    obtain ⟨⟨verb, tail⟩, rfl, hverb⟩ := List.map_eq_singleton_iff.mp hterms
    have htail := isSpaced_singleton_iff.mp hspaced
    exact ⟨verb.text, tail, by simp, htail, .alone hverb⟩
  | verbFirst literal =>
    obtain ⟨verb, gap, object, tail, rfl, hverb, hobject⟩ := exists_words_of_map_eq_pair hterms
    obtain ⟨hgap, hne, htail⟩ := isSpaced_pair_iff.mp hspaced
    obtain ⟨content, _, rfl⟩ := object.exists_content hobject
    rw [unquote_quoted]
    refine ⟨verb.text ++ gap ++ object.text, tail, by simp, htail, ?_⟩
    exact .verbFirst hverb hobject hgap hne
  | objectFirst literal =>
    obtain ⟨object, gap, verb, tail, rfl, hobject, hverb⟩ := exists_words_of_map_eq_pair hterms
    obtain ⟨hgap, hne, htail⟩ := isSpaced_pair_iff.mp hspaced
    obtain ⟨content, _, rfl⟩ := object.exists_content hobject
    rw [unquote_quoted]
    refine ⟨object.text ++ gap ++ verb.text, tail, by simp, htail, ?_⟩
    exact .objectFirst hverb hobject hgap hne

namespace Registry

theorem map_action_eq_ok_iff {registry : Registry} {α : Type} {f : Action → α} {value : α} :
    (registry.action name).map f = .ok value ↔
      ∃ action, registry.action? name = some action ∧ f action = value := by
  rw [map_eq_ok_iff, action]
  cases registry.action? name with
  | none => simp
  | some action => simp

theorem resolve_eq_ok_iff {registry : Registry} {terms : List Term} {invocation : Invocation} :
    registry.resolve terms = .ok invocation ↔
      ∃ name, Asks name invocation.argument terms ∧
        registry.action? name = some invocation.action := by
  apply Iff.intro
  · intro h
    rcases nodup_or_firstRepeated terms with hnodup | ⟨role, hrepeated⟩
    · rw [registry.resolve_of_nodup hnodup] at h
      cases hverb : textOf? .verb terms with
      | none =>
        rw [hverb] at h
        cases h
      | some name =>
        rw [hverb] at h
        obtain ⟨action, haction, rfl⟩ := map_action_eq_ok_iff.mp h
        exact ⟨name, asks_of_nodup hnodup hverb, haction⟩
    · rw [registry.resolve_of_firstRepeated hrepeated] at h
      cases h
  · intro h
    obtain ⟨action, argument⟩ := invocation
    obtain ⟨name, hasks, haction⟩ := h
    cases hasks
    all_goals exact map_action_eq_ok_iff.mpr ⟨action, haction, rfl⟩

theorem resolve_text_eq_ok_iff_layout {registry : Registry} {text : String}
    {invocation : Invocation} :
    (∃ sentence, (Excerpt.ofString text).readSentence = .ok sentence ∧
      registry.resolve sentence.terms = .ok invocation) ↔
    ∃ layout : Layout, layout.text = text.toList ∧
      registry.resolve (layout.words.map (·.1.term)) = .ok invocation := by
  apply Iff.intro
  · intro h
    obtain ⟨sentence, hread, hresolve⟩ := h
    obtain ⟨layout, htext, rfl⟩ := Excerpt.readSentence_eq_ok_iff.mp hread
    rw [Sentence.terms_ofTerms] at hresolve
    exact ⟨layout, htext, hresolve⟩
  · intro h
    obtain ⟨layout, htext, hresolve⟩ := h
    refine ⟨_, Excerpt.readSentence_eq_ok_iff.mpr ⟨layout, htext, rfl⟩, ?_⟩
    rw [Sentence.terms_ofTerms]
    exact hresolve

/-- A text calls for an invocation exactly when, up to the blanks around it, it is a command for it:
the registry gives the action of its verb, and the argument is the content of its object. -/
theorem resolve_text_eq_ok_iff (registry : Registry) (text : String) (invocation : Invocation) :
    (∃ sentence, (Excerpt.ofString text).readSentence = .ok sentence ∧
      registry.resolve sentence.terms = .ok invocation) ↔
    ∃ lead body tail name, text.toList = lead ++ body ++ tail ∧ Text.IsBlank lead ∧
      Text.IsBlank tail ∧ Commands name invocation.argument body ∧
      registry.action? name = some invocation.action := by
  rw [resolve_text_eq_ok_iff_layout]
  apply Iff.intro
  · intro h
    obtain ⟨⟨lead, words, hlead, hspaced⟩, htext, hresolve⟩ := h
    obtain ⟨name, hasks, haction⟩ := resolve_eq_ok_iff.mp hresolve
    obtain ⟨body, tail, hspell, htail, hcommands⟩ := hasks.exists_commands hspaced
    have hparts : text.toList = lead ++ body ++ tail := by
      rw [← htext, Layout.text, hspell, List.append_assoc]
    exact ⟨lead, body, tail, name, hparts, hlead, htail, hcommands, haction⟩
  · intro h
    obtain ⟨lead, body, tail, name, hparts, hlead, htail, hcommands, haction⟩ := h
    obtain ⟨words, hspaced, hspell, hasks⟩ := hcommands.exists_words htail
    have hresolve := resolve_eq_ok_iff.mpr ⟨name, hasks, haction⟩
    refine ⟨⟨lead, words, hlead, hspaced⟩, ?_, hresolve⟩
    rw [Layout.text, hspell, hparts, List.append_assoc]

end Registry

end FreeOrder
