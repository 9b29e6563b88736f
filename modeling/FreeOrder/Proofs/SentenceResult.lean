import FreeOrder.Proofs.TermwiseResolution

namespace FreeOrder

/-- The text is the literal without the quote that it begins with, if it does, and then without the
quote that the rest ends with, if it does. -/
def IsUnquoted (literal text : String) : Prop :=
  ∃ inner : String,
    (literal = "\"" ++ inner ∨ literal = inner ∧ ¬"\"".toList <+: literal.toList) ∧
    (inner = text ++ "\"" ∨ inner = text ∧ ¬"\"".toList <:+ inner.toList)

/-- The text that an invocation takes from its terms: what stands in the quotes of the object, if
there is an object. -/
inductive IsArgument (terms : List Term) : Option String → Prop
  | none (hobject : Role.directObject ∉ terms.map Term.role) : IsArgument terms none
  | some {literal text : String} (hobject : .directObject literal ∈ terms)
      (htext : IsUnquoted literal text) : IsArgument terms (some text)

/-- What comes of a sentence with the terms. A role that is repeated counts before a verb that is
missing, and that before a verb that is unknown. -/
inductive ResolvesTo (registry : Registry) (terms : List Term) :
    Except RuntimeError Invocation → Prop
  | repeated {role : Role} (hrole : FirstRepeated role terms) :
      ResolvesTo registry terms (.error (.duplicateRole role))
  | verbless (hroles : (terms.map Term.role).Nodup) (hverb : Role.verb ∉ terms.map Term.role) :
      ResolvesTo registry terms (.error .missingVerb)
  | unknown {name : String} (hroles : (terms.map Term.role).Nodup) (hverb : .verb name ∈ terms)
      (hname : registry.action? name = none) :
      ResolvesTo registry terms (.error (.unknownVerb name))
  | resolved {name : String} {action : Action} {argument : Option String}
      (hroles : (terms.map Term.role).Nodup) (hverb : .verb name ∈ terms)
      (hname : registry.action? name = some action) (hargument : IsArgument terms argument) :
      ResolvesTo registry terms (.ok ⟨action, argument⟩)

def dropQuote : List Char → List Char
  | '"' :: rest => rest
  | text => text

theorem dropQuote_eq_iff {text rest : List Char} :
    dropQuote text = rest ↔ text = '"' :: rest ∨ text = rest ∧ ¬['"'] <+: text := by
  rw [dropQuote.eq_def]
  split
  next found => simp
  next hnot =>
    have hquote : ¬['"'] <+: text := by
      intro h
      obtain ⟨found, rfl⟩ := h
      exact hnot found rfl
    have hne : text ≠ '"' :: rest := hnot rest
    simp [hquote, hne]

theorem toList_unquote (literal : String) :
    (unquote literal).toList = (dropQuote (dropQuote literal.toList).reverse).reverse := by
  have hunquote : unquote literal =
      match (dropQuote literal.toList).reverse with
      | '"' :: rest => String.ofList rest.reverse
      | _ => String.ofList (dropQuote literal.toList) := rfl
  rw [hunquote, dropQuote.eq_def (dropQuote literal.toList).reverse]
  split <;> simp

theorem dropQuote_front_iff {literal inner : String} :
    dropQuote literal.toList = inner.toList ↔
      literal = "\"" ++ inner ∨ literal = inner ∧ ¬"\"".toList <+: literal.toList := by
  simp only [dropQuote_eq_iff, ← String.toList_inj, String.toList_append]
  rfl

theorem dropQuote_back_iff {inner text : String} :
    dropQuote inner.toList.reverse = text.toList.reverse ↔
      inner = text ++ "\"" ∨ inner = text ∧ ¬"\"".toList <:+ inner.toList := by
  rw [dropQuote_eq_iff, List.reverse_inj, List.reverse_eq_cons_iff, List.reverse_reverse,
    ← List.reverse_suffix, List.reverse_reverse]
  simp only [← String.toList_inj, String.toList_append]
  rfl

theorem isUnquoted_iff {literal text : String} :
    IsUnquoted literal text ↔ unquote literal = text := by
  simp only [IsUnquoted, ← dropQuote_front_iff, ← dropQuote_back_iff]
  rw [← String.toList_inj, toList_unquote, List.reverse_eq_iff]
  apply Iff.intro
  · intro h
    obtain ⟨inner, hfront, hback⟩ := h
    rw [hfront]
    exact hback
  · intro h
    exact ⟨String.ofList (dropQuote literal.toList), by simp, by simpa using h⟩

variable {registry : Registry} {terms : List Term} {term : Term} {argument : Option String}
  {result : Except RuntimeError Invocation}

theorem Term.eq_of_role_of_text {other : Term} (hrole : term.role = other.role)
    (htext : term.text = other.text) : term = other := by
  cases term <;> cases other <;> simp_all [Term.role, Term.text]

/-- Where no role comes twice, a term is one of the terms if it is the first of its role. -/
theorem mem_iff_textOf? (h : (terms.map Term.role).Nodup) :
    term ∈ terms ↔ textOf? term.role terms = some term.text := by
  rw [textOf?_eq_some_iff h]
  apply Iff.intro
  · intro hmem
    exact ⟨term, hmem, rfl, rfl⟩
  · intro hterm
    obtain ⟨other, hmem, hrole, htext⟩ := hterm
    rw [Term.eq_of_role_of_text hrole htext] at hmem
    exact hmem

theorem isArgument_iff (h : (terms.map Term.role).Nodup) :
    IsArgument terms argument ↔ (textOf? .directObject terms).map unquote = argument := by
  apply Iff.intro
  · intro hargument
    cases hargument with
    | none hobject =>
      rw [textOf?_eq_none_iff.mpr hobject]
      rfl
    | some hobject htext =>
      have hfound := (mem_iff_textOf? h).mp hobject
      rw [Term.role] at hfound
      rw [hfound, Option.map_some, Term.text, isUnquoted_iff.mp htext]
  · intro hargument
    subst hargument
    cases hfound : textOf? .directObject terms with
    | none => exact .none (textOf?_eq_none_iff.mp hfound)
    | some literal =>
      have hmem : .directObject literal ∈ terms := (mem_iff_textOf? h).mpr hfound
      exact .some hmem (isUnquoted_iff.mpr rfl)

theorem Registry.action_of_none {name : String} (h : registry.action? name = none) :
    registry.action name = .error (.unknownVerb name) := by
  rw [action, h]

theorem Registry.action_of_some {name : String} {action : Action}
    (h : registry.action? name = some action) : registry.action name = .ok action := by
  rw [Registry.action, h]

theorem resolvesTo_resolve (registry : Registry) (terms : List Term) :
    ResolvesTo registry terms (registry.resolve terms) := by
  rcases nodup_or_firstRepeated terms with hroles | ⟨role, hrole⟩
  · rw [registry.resolve_of_nodup hroles]
    cases hfound : textOf? .verb terms with
    | none => exact .verbless hroles (textOf?_eq_none_iff.mp hfound)
    | some name =>
      have hverb : .verb name ∈ terms := (mem_iff_textOf? hroles).mpr hfound
      cases hname : registry.action? name with
      | none =>
        simp only [Registry.action_of_none hname]
        exact .unknown hroles hverb hname
      | some action =>
        simp only [Registry.action_of_some hname]
        exact .resolved hroles hverb hname ((isArgument_iff hroles).mpr rfl)
  · rw [registry.resolve_of_firstRepeated hrole]
    exact .repeated hrole

theorem ResolvesTo.resolve_eq (h : ResolvesTo registry terms result) :
    registry.resolve terms = result := by
  cases h with
  | repeated hrole => exact registry.resolve_of_firstRepeated hrole
  | verbless hroles hverb =>
    rw [registry.resolve_of_nodup hroles, textOf?_eq_none_iff.mpr hverb]
  | unknown hroles hverb hname =>
    have hfound := (mem_iff_textOf? hroles).mp hverb
    rw [Term.role] at hfound
    rw [registry.resolve_of_nodup hroles, hfound]
    simp only [Term.text, Registry.action_of_none hname]
    rfl
  | resolved hroles hverb hname hargument =>
    have hfound := (mem_iff_textOf? hroles).mp hverb
    rw [Term.role] at hfound
    rw [registry.resolve_of_nodup hroles, hfound, (isArgument_iff hroles).mp hargument]
    simp only [Term.text, Registry.action_of_some hname]
    rfl

namespace Registry

/-- A sentence, of however many terms, has exactly the result that its terms call for. It is the
same when the meanings of its terms are put together one by one, whatever the last resort would be:
what is put together always has an action. -/
theorem resolve_sentence_eq_iff (registry : Registry) (sentence : Sentence)
    (result : Except RuntimeError Invocation) :
    (registry.resolve sentence.terms = result ↔ ResolvesTo registry sentence.terms result) ∧
    ∀ lastResort, registry.resolveTermwise lastResort sentence.terms =
      registry.resolve sentence.terms := by
  apply And.intro
  · apply Iff.intro
    · intro h
      rw [← h]
      exact resolvesTo_resolve registry sentence.terms
    · exact ResolvesTo.resolve_eq
  · intro lastResort
    exact registry.resolveTermwise_eq lastResort sentence.terms

end Registry

end FreeOrder
