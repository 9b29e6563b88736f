import FreeOrder.Fixture.Verdict
import FreeOrder.Proofs.VerbNames

namespace FreeOrder.Fixture

variable {fixture : Fixture} {registry : Registry}

/-- The registry is that of the fixture's verb table, or the standard one if there is no table. -/
inductive Provides (fixture : Fixture) : Registry → Prop
  | standard (hnone : fixture.verbs = none) : fixture.Provides .standard
  | ofTable {table : VerbTable} {registry : Registry} (hsome : fixture.verbs = some table)
      (hvalid : table.registry = .ok registry) : fixture.Provides registry

theorem registry_eq_ok_iff : fixture.registry = .ok registry ↔ fixture.Provides registry := by
  rw [Fixture.registry]
  constructor
  · intro h
    split at h
    next hnone =>
      cases h
      exact .standard hnone
    next table hsome => exact .ofTable hsome h
  · intro h
    cases h with
    | standard hnone => rw [hnone]
    | ofTable hsome hvalid =>
      rw [hsome]
      exact hvalid

def IsUnreadable (fixture : Fixture) : Prop :=
  ∃ errors, (Excerpt.ofString fixture.source).readScript = .error errors

def Yields (fixture : Fixture) (registry : Registry) (result : Except LocatedError Nat)
    (output : String) : Prop :=
  ∃ script, (Excerpt.ofString fixture.source).readScript = .ok script ∧
    script.execute registry .text "" = (result, output)

def FailsWith (fixture : Fixture) (registry : Registry) (part : String) : Prop :=
  ∃ located output, fixture.Yields registry (.error located) output ∧
    part.toList <:+: located.error.message.toList

def Succeeds (fixture : Fixture) (registry : Registry) : Prop :=
  ∃ count output, fixture.Yields registry (.ok count) output

def written (fixture : Fixture) (registry : Registry) : String :=
  match (Excerpt.ofString fixture.source).readScript with
  | .error _ => ""
  | .ok script => (script.execute registry .text "").2

/-- The text is what carrying out the script writes, but for the blanks around both. -/
def Writes (fixture : Fixture) (registry : Registry) (text : String) : Prop :=
  Text.trim (fixture.written registry).toList = Text.trim text.toList

instance (fixture : Fixture) (registry : Registry) (text : String) :
    Decidable (fixture.Writes registry text) :=
  inferInstanceAs (Decidable (_ = _))

/-- Everything that the fixture declares is the case. -/
structure MeetsAll (fixture : Fixture) (registry : Registry) : Prop where
  unreadable : fixture.expectsSyntaxError = true → fixture.IsUnreadable
  fails : ∀ part, fixture.expectedError = some part → fixture.FailsWith registry part
  writes : ∀ text, fixture.expectedOutput = some text → fixture.Writes registry text
  succeeds : fixture.expectsSyntaxError = false → fixture.expectedError = none →
    fixture.Succeeds registry

/-- What the fixture declares first is the case: that the script cannot be read, or else that it
fails, or else what it writes. -/
structure MeetsFirst (fixture : Fixture) (registry : Registry) : Prop where
  unreadable : fixture.expectsSyntaxError = true → fixture.IsUnreadable
  fails : fixture.expectsSyntaxError = false →
    ∀ part, fixture.expectedError = some part → fixture.FailsWith registry part
  succeeds : fixture.expectsSyntaxError = false → fixture.expectedError = none →
    fixture.Succeeds registry ∧
      ∀ text, fixture.expectedOutput = some text → fixture.Writes registry text

theorem Yields.unique {result result' : Except LocatedError Nat} {output output' : String}
    (h : fixture.Yields registry result output) (h' : fixture.Yields registry result' output') :
    result = result' ∧ output = output' := by
  obtain ⟨script, hread, hrun⟩ := h
  obtain ⟨script', hread', hrun'⟩ := h'
  rw [hread] at hread'
  cases hread'
  rw [hrun] at hrun'
  exact Prod.mk.inj hrun'

section Yields

variable {result : Except LocatedError Nat} {output : String}

theorem Yields.written_eq (h : fixture.Yields registry result output) :
    fixture.written registry = output := by
  obtain ⟨script, hread, hrun⟩ := h
  rw [written, hread]
  exact congrArg Prod.snd hrun

theorem Yields.failsWith_iff (h : fixture.Yields registry result output) {part : String} :
    fixture.FailsWith registry part ↔
      ∃ located, result = .error located ∧ part.toList <:+: located.error.message.toList := by
  apply Iff.intro
  · intro hfails
    obtain ⟨located, output', hyields, hpart⟩ := hfails
    exact ⟨located, (h.unique hyields).1, hpart⟩
  · intro hfails
    obtain ⟨located, rfl, hpart⟩ := hfails
    exact ⟨located, output, h, hpart⟩

theorem Yields.succeeds_iff (h : fixture.Yields registry result output) :
    fixture.Succeeds registry ↔ ∃ count, result = .ok count := by
  apply Iff.intro
  · intro hsucceeds
    obtain ⟨count, output', hyields⟩ := hsucceeds
    exact ⟨count, (h.unique hyields).1⟩
  · intro hsucceeds
    obtain ⟨count, rfl⟩ := hsucceeds
    exact ⟨count, output, h⟩

theorem IsUnreadable.not_yields (h : fixture.IsUnreadable) :
    ¬ fixture.Yields registry result output := by
  intro hyields
  obtain ⟨errors, herrors⟩ := h
  obtain ⟨script, hread, _⟩ := hyields
  rw [herrors] at hread
  cases hread

theorem isUnreadable_or_yields (fixture : Fixture) (registry : Registry) :
    fixture.IsUnreadable ∨ ∃ result output, fixture.Yields registry result output := by
  cases hread : (Excerpt.ofString fixture.source).readScript with
  | error errors => exact .inl ⟨errors, hread⟩
  | ok script => exact .inr ⟨_, _, script, hread, rfl⟩

theorem compare_eq_none_iff (h : fixture.Yields registry result output) :
    fixture.compare result output = none ↔
      (∀ part, fixture.expectedError = some part → fixture.FailsWith registry part) ∧
      (fixture.expectedError = none → fixture.Succeeds registry ∧
        ∀ text, fixture.expectedOutput = some text → fixture.Writes registry text) := by
  simp only [compare, Writes, h.failsWith_iff, h.succeeds_iff, h.written_eq]
  cases fixture.expectedError with
  | some part => cases result <;> simp [Text.contains_iff]
  | none =>
    cases result with
    | error located => simp
    | ok count => cases fixture.expectedOutput <;> simp [String.ofList_inj]

theorem shortfall?_of_isUnreadable (hregistry : fixture.registry = .ok registry)
    (h : fixture.IsUnreadable) :
    fixture.shortfall? = none ↔ fixture.expectsSyntaxError = true := by
  obtain ⟨errors, hread⟩ := h
  simp [shortfall?, hregistry, hread]

theorem shortfall?_of_yields (hregistry : fixture.registry = .ok registry)
    (h : fixture.Yields registry result output) : fixture.shortfall? = none ↔
      fixture.expectsSyntaxError = false ∧ fixture.compare result output = none := by
  obtain ⟨script, hread, hrun⟩ := h
  simp only [shortfall?, hregistry, hread, hrun]
  cases fixture.expectsSyntaxError <;> simp

end Yields

theorem meetsFirst_of_isUnreadable_iff (h : fixture.IsUnreadable) :
    fixture.MeetsFirst registry ↔ fixture.expectsSyntaxError = true := by
  apply Iff.intro
  · intro hmeets
    rw [← Bool.not_eq_false]
    intro hflag
    cases herror : fixture.expectedError with
    | some part =>
      obtain ⟨_, _, hyields, _⟩ := hmeets.fails hflag part herror
      exact h.not_yields hyields
    | none =>
      obtain ⟨⟨_, _, hyields⟩, _⟩ := hmeets.succeeds hflag herror
      exact h.not_yields hyields
  · intro hflag
    constructor
    · exact fun _ => h
    · intro hflag'
      simp [hflag] at hflag'
    · intro hflag'
      simp [hflag] at hflag'

theorem meetsFirst_of_yields_iff {result : Except LocatedError Nat} {output : String}
    (h : fixture.Yields registry result output) : fixture.MeetsFirst registry ↔
      fixture.expectsSyntaxError = false ∧ fixture.compare result output = none := by
  rw [compare_eq_none_iff h]
  apply Iff.intro
  · intro hmeets
    have hflag : fixture.expectsSyntaxError = false := by
      rw [← Bool.not_eq_true]
      intro hflag
      exact (hmeets.unreadable hflag).not_yields h
    exact ⟨hflag, hmeets.fails hflag, hmeets.succeeds hflag⟩
  · intro hcompare
    obtain ⟨hflag, hfails, hsucceeds⟩ := hcompare
    constructor
    · intro hflag'
      simp [hflag] at hflag'
    · exact fun _ => hfails
    · exact fun _ => hsucceeds

/-- A fixture passes exactly when its registry is valid and what it declares first is the case. -/
theorem passes_iff : fixture.shortfall? = none ↔
    ∃ registry, fixture.Provides registry ∧ fixture.MeetsFirst registry := by
  simp only [← registry_eq_ok_iff]
  cases hregistry : fixture.registry with
  | error error => simp [shortfall?, hregistry]
  | ok registry =>
    simp only [Except.ok.injEq, exists_eq_left']
    rcases isUnreadable_or_yields fixture registry with h | ⟨result, output, h⟩
    · rw [shortfall?_of_isUnreadable hregistry h, meetsFirst_of_isUnreadable_iff h]
    · rw [shortfall?_of_yields hregistry h, meetsFirst_of_yields_iff h]

/-- A fixture that passes meets what it declares first. It meets everything that it declares if
and only if it does not declare an error beside a syntax error, and it also writes the output that
it declares beside an error of either kind. -/
theorem meetsAll_iff_of_passes (h : fixture.shortfall? = none) :
    ∃ registry, fixture.Provides registry ∧ fixture.MeetsFirst registry ∧
      (fixture.MeetsAll registry ↔
        (fixture.expectsSyntaxError = true → fixture.expectedError = none) ∧
        (fixture.expectsSyntaxError = true ∨ fixture.expectedError ≠ none →
          ∀ text, fixture.expectedOutput = some text → fixture.Writes registry text)) := by
  obtain ⟨registry, hregistry, hfirst⟩ := passes_iff.mp h
  refine ⟨registry, hregistry, hfirst, ?_⟩
  apply Iff.intro
  · intro hall
    refine ⟨?_, fun _ => hall.writes⟩
    intro hflag
    cases herror : fixture.expectedError with
    | none => rfl
    | some part =>
      obtain ⟨_, _, hyields, _⟩ := hall.fails part herror
      exact ((hfirst.unreadable hflag).not_yields hyields).elim
  · intro hrest
    obtain ⟨hnone, hwrites⟩ := hrest
    constructor
    · exact hfirst.unreadable
    · intro part hpart
      cases hflag : fixture.expectsSyntaxError with
      | false => exact hfirst.fails hflag part hpart
      | true =>
        rw [hnone hflag] at hpart
        cases hpart
    · intro text htext
      by_cases hother : fixture.expectsSyntaxError = true ∨ fixture.expectedError ≠ none
      · exact hwrites hother text htext
      · rw [not_or, Bool.not_eq_true, Decidable.not_not] at hother
        exact (hfirst.succeeds hother.1 hother.2).2 text htext
    · intro hflag herror
      exact (hfirst.succeeds hflag herror).1

theorem meetsAll_of_passes_say_print :
    let fixture : Fixture := {
      verbs := some (.ofList [("say", "output")])
      expectedOutput := some "a"
      expectedError := some "unknown verb: print"
      source := "v(say) o(\"a\")\nv(print)" }
    fixture.shortfall? = none ∧
      ∃ registry, fixture.Provides registry ∧ fixture.MeetsAll registry := by
  intro fixture
  have hpasses : fixture.shortfall? = none := by decide +kernel
  obtain ⟨registry, hprovides, _, hall⟩ := meetsAll_iff_of_passes hpasses
  refine ⟨hpasses, registry, hprovides, hall.mpr ⟨?_, ?_⟩⟩
  · intro hflag
    cases hflag
  · intro _ text htext
    cases htext
    cases hprovides with
    | standard hnone => cases hnone
    | ofTable hsome hvalid =>
      cases hsome
      obtain ⟨_, rfl⟩ := VerbTable.registry_eq_ok_iff.mp hvalid
      decide +kernel

/-- Beside an error, the output that is declared is not looked at. -/
theorem passes_without_expected_output :
    let fixture : Fixture := {
      expectedOutput := some "b"
      expectedError := some "unknown verb"
      source := "v(print) o(\"a\")\nv(yell)" }
    fixture.shortfall? = none ∧
      ¬ ∃ registry, fixture.Provides registry ∧ fixture.MeetsAll registry := by
  intro fixture
  refine ⟨by decide +kernel, ?_⟩
  rintro ⟨registry, hprovides, hall⟩
  cases registry_eq_ok_iff.mpr hprovides
  have hwrites := hall.writes "b" rfl
  revert hwrites
  decide +kernel

end FreeOrder.Fixture
