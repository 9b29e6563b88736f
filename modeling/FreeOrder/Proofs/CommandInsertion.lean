import FreeOrder.CommandLine.Shorthand
import Mathlib.Data.List.Chain

namespace FreeOrder.CommandLine

variable {words front back : List String} {word : String}

theorem hasDash_of_mem_valueOptions (h : word ∈ valueOptions) : hasDash word = true := by
  have hall : ∀ option ∈ valueOptions, hasDash option = true := by decide
  exact hall word h

theorem not_mem_valueOptions (h : hasDash word = false) : word ∉ valueOptions := by
  intro hmem
  rw [hasDash_of_mem_valueOptions hmem] at h
  cases h

theorem insertRun_cons (h : word ∉ valueOptions) : insertRun (word :: back) =
    if hasDash word then word :: insertRun back
    else if word ∈ commandNames then word :: back
    else "run" :: word :: back := by
  rw [insertRun.eq_def]
  simp only [if_neg h]

/-- The search ends at a word without a dash. -/
theorem insertRun_of_noDash (h : hasDash word = false) : insertRun (word :: back) =
    if word ∈ commandNames then word :: back else "run" :: word :: back := by
  rw [insertRun_cons (not_mem_valueOptions h), if_neg (by simp [h])]

/-- Words that the search for a command goes past: options, and values of those that take one. -/
inductive IsPassed : List String → Prop
  | nil : IsPassed []
  | option {word : String} {words : List String} (hdash : hasDash word = true)
      (hvalue : word ∉ valueOptions) (hwords : IsPassed words) : IsPassed (word :: words)
  | withValue {word value : String} {words : List String} (hvalue : word ∈ valueOptions)
      (hwords : IsPassed words) : IsPassed (word :: value :: words)

theorem IsPassed.append (hfront : IsPassed front) (hback : IsPassed back) :
    IsPassed (front ++ back) := by
  induction hfront with
  | nil => exact hback
  | option hdash hvalue _ ih => exact .option hdash hvalue ih
  | withValue hvalue _ ih => exact .withValue hvalue ih

/-- The search goes past the words and carries on behind them. -/
theorem IsPassed.insertRun_append (h : IsPassed front) :
    insertRun (front ++ back) = front ++ insertRun back := by
  induction h with
  | nil => rfl
  | option hdash hvalue _ ih =>
    rw [List.cons_append, insertRun_cons hvalue, if_pos hdash, ih, List.cons_append]
  | withValue hvalue _ ih =>
    rw [List.cons_append, List.cons_append, insertRun, if_pos hvalue, ih, List.cons_append,
      List.cons_append]

/-- Where `run` is put: behind words that the search goes past, and before one that is no command
and no option. -/
structure IsPlace (front : List String) (word : String) : Prop where
  passed : IsPassed front
  noCommand : word ∉ commandNames
  noDash : hasDash word = false

theorem IsPlace.insertRun_eq (h : IsPlace front word) :
    insertRun (front ++ word :: back) = front ++ "run" :: word :: back := by
  rw [h.passed.insertRun_append, insertRun_of_noDash h.noDash, if_neg h.noCommand]

/-- What has been completed is complete: the search ends at the inserted word. -/
theorem IsPlace.insertRun_inserted (h : IsPlace front word) :
    insertRun (front ++ "run" :: word :: back) = front ++ "run" :: word :: back := by
  rw [h.passed.insertRun_append, insertRun_of_noDash (by decide), if_pos (by decide)]

theorem insertRun_eq_self_or_isPlace (words : List String) : insertRun words = words ∨
    ∃ front word back, IsPlace front word ∧ words = front ++ word :: back := by
  fun_induction insertRun words with
  | case1 => exact .inl rfl
  | case2 => exact .inl rfl
  | case3 word hvalue value rest ih =>
    rcases ih with hsame | ⟨front, other, back, ⟨hpassed, hcommand, hdash⟩, rfl⟩
    · exact .inl (by rw [hsame])
    · exact .inr ⟨word :: value :: front, other, back,
        ⟨.withValue hvalue hpassed, hcommand, hdash⟩, rfl⟩
  | case4 word rest hvalue hdash ih =>
    rcases ih with hsame | ⟨front, other, back, ⟨hpassed, hcommand, hother⟩, rfl⟩
    · exact .inl (by rw [hsame])
    · exact .inr ⟨word :: front, other, back,
        ⟨.option hdash hvalue hpassed, hcommand, hother⟩, rfl⟩
  | case5 => exact .inl rfl
  | case6 word rest hvalue hdash hcommand =>
    exact .inr ⟨[], word, rest, ⟨.nil, hcommand, by simpa using hdash⟩, rfl⟩

/-- Each word but the first is an option or follows one that takes a value. -/
theorem IsPassed.isChain (h : IsPassed words) (first : String) : (first :: words).IsChain
    fun previous next => hasDash next = true ∨ previous ∈ valueOptions := by
  induction h generalizing first with
  | nil => exact .singleton first
  | option hdash _ _ ih => exact .cons_cons (.inl hdash) (ih _)
  | withValue hvalue _ ih =>
    exact .cons_cons (.inl (hasDash_of_mem_valueOptions hvalue)) (.cons_cons (.inr hvalue) (ih _))

/-- Completing a command line leaves it as it is, or puts a single `run` somewhere behind the name
of the program: all words in between are options or follow one that takes a value, and the word
after it is no command and no option. A completed command line stays as it is. -/
theorem complete_inserts_once (words : List String) :
    (complete words = words ∨ ∃ front word back, words = front ++ word :: back ∧
      complete words = front ++ "run" :: word :: back ∧ front ≠ [] ∧
      (front.IsChain fun previous next => hasDash next = true ∨ previous ∈ valueOptions) ∧
      word ∉ commandNames ∧ hasDash word = false) ∧
    complete (complete words) = complete words := by
  cases words with
  | nil => exact ⟨.inl rfl, rfl⟩
  | cons program words =>
    rcases insertRun_eq_self_or_isPlace words with hsame | ⟨front, word, back, hplace, rfl⟩
    · have hcomplete : complete (program :: words) = program :: words := by rw [complete, hsame]
      exact ⟨.inl hcomplete, by rw [hcomplete, hcomplete]⟩
    · have hcomplete : complete (program :: (front ++ word :: back)) =
          program :: front ++ "run" :: word :: back := by
        rw [complete, hplace.insertRun_eq, List.cons_append]
      constructor
      · exact .inr ⟨program :: front, word, back, rfl, hcomplete, List.cons_ne_nil _ _,
          hplace.passed.isChain program, hplace.noCommand, hplace.noDash⟩
      · rw [hcomplete, List.cons_append, complete, hplace.insertRun_inserted]

end FreeOrder.CommandLine
