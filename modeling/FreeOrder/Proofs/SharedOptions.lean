import FreeOrder.CommandLine.Request
import FreeOrder.Proofs.CommandInsertion

namespace FreeOrder.CommandLine

structure OptionValue where
  text : String
  ne_empty : text ≠ ""
  noDash : hasDash text = false

/-- An option that all commands share, in one of its spellings. A value is attached to its option,
or is the next word. -/
inductive SharedOption
  | noColor
  | verbose
  | verboseLetters (more : Nat)
  | registry (attached : Bool) (path : OptionValue)
  | registryLetter (verbosity : Nat) (attached : Bool) (path : OptionValue)

namespace SharedOption

def verbosityLetters (count : Nat) : List Char :=
  '-' :: List.replicate count 'v'

def words : SharedOption → List String
  | noColor => ["--no-color"]
  | verbose => ["--verbose"]
  | verboseLetters more => [.ofList (verbosityLetters (more + 1))]
  | registry true path => ["--registry=" ++ path.text]
  | registry false path => ["--registry", path.text]
  | registryLetter verbosity true path =>
    [.ofList (verbosityLetters verbosity ++ 'r' :: path.text.toList)]
  | registryLetter verbosity false path =>
    [.ofList (verbosityLetters verbosity ++ ['r']), path.text]

/-- The value that is left to the next word by a letter that does not stand alone. -/
def strayValue? : SharedOption → Option OptionValue
  | registryLetter (_ + 1) false path => some path
  | _ => none

variable {option : SharedOption} {options : List SharedOption} {path : OptionValue} {word : String}
  {text : List Char} {rest : List String}

theorem not_mem_valueOptions_of_toList (h : text ∉ valueOptions.map String.toList) :
    String.ofList text ∉ valueOptions := by
  intro hmem
  apply h
  rw [← String.toList_ofList (l := text)]
  exact List.mem_map_of_mem hmem

theorem isPassed_singleton (h : '-' :: text ∉ valueOptions.map String.toList) :
    IsPassed [.ofList ('-' :: text)] := by
  have hdash : hasDash (.ofList ('-' :: text)) = true := by simp [hasDash]
  exact .option hdash (not_mem_valueOptions_of_toList h) .nil

/-- The search goes past an option, unless it leaves a stray value behind. -/
theorem isPassed_words (h : option.strayValue? = none) : IsPassed option.words := by
  cases option with
  | noColor => exact .option (by decide) (by decide) .nil
  | verbose => exact .option (by decide) (by decide) .nil
  | verboseLetters more =>
    apply isPassed_singleton
    simp [List.replicate_succ, valueOptions]
  | registry attached path =>
    cases attached with
    | false => exact .withValue (by decide) .nil
    | true =>
      have hword : "--registry=" ++ path.text =
          .ofList ('-' :: ("-registry=".toList ++ path.text.toList)) := by
        apply String.toList_injective
        simp
      rw [words, hword]
      apply isPassed_singleton
      simp [valueOptions]
  | registryLetter verbosity attached path =>
    cases attached with
    | false =>
      cases verbosity with
      | zero => exact .withValue (by decide) .nil
      | succ verbosity => cases h
    | true =>
      apply isPassed_singleton
      have hpath : path.text.toList ≠ [] := by simpa using path.ne_empty
      cases verbosity with
      | zero => simpa [valueOptions] using hpath
      | succ verbosity => simp [List.replicate_succ, valueOptions]

theorem isPassed_flatMap (h : ∀ option ∈ options, option.strayValue? = none) :
    IsPassed (options.flatMap words) := by
  induction options with
  | nil => exact .nil
  | cons option options ih =>
    obtain ⟨hoption, hoptions⟩ := List.forall_mem_cons.mp h
    exact (isPassed_words hoption).append (ih hoptions)

/-- An option that leaves a stray value is passed without it. -/
theorem exists_words_of_strayValue (h : option.strayValue? = some path) :
    ∃ letters, IsPassed [letters] ∧ option.words = [letters, path.text] := by
  cases option with
  | registryLetter verbosity attached other =>
    cases verbosity with
    | zero => cases h
    | succ verbosity =>
      cases attached with
      | true => cases h
      | false =>
        cases h
        refine ⟨_, isPassed_singleton ?_, rfl⟩
        simp [List.replicate_succ, valueOptions]
  | _ => cases h

/-- The search goes past all that comes before the first stray value. -/
theorem exists_split_at_strayValue (h : options.findSome? strayValue? = some path) :
    ∃ before after, IsPassed before ∧ options.flatMap words = before ++ path.text :: after := by
  obtain ⟨before, option, after, rfl, hoption, hbefore⟩ := List.findSome?_eq_some_iff.mp h
  obtain ⟨letters, hletters, hwords⟩ := exists_words_of_strayValue hoption
  refine ⟨before.flatMap words ++ [letters], after.flatMap words,
    (isPassed_flatMap hbefore).append hletters, ?_⟩
  simp [hwords]

/-- Completing a command line at a stray value serves a later word only if both are commands. -/
theorem insertRun_cons_append_iff {value : String} (hvalue : hasDash value = false)
    (hword : hasDash word = false) (between rest : List String) :
    insertRun (value :: (between ++ word :: rest)) =
        value :: (between ++ insertRun (word :: rest)) ↔
      value ∈ commandNames ∧ word ∈ commandNames := by
  rw [insertRun_of_noDash hvalue, insertRun_of_noDash hword]
  by_cases hv : value ∈ commandNames
  · by_cases hw : word ∈ commandNames
    · simp [hv, hw]
    · simp [hv, hw]
  · have hrun : "run" ≠ value := by
      intro he
      exact hv (he ▸ by decide)
    simp [hv, hrun]

/-- A command line with shared options in front of its first argument is completed right before that
argument, or not at all if the argument is a command, unless letters leave a stray value behind. It
is the first stray value that counts then, so that it and the argument must both be commands. -/
theorem complete_options_iff (program : String) (options : List SharedOption)
    (hword : hasDash word = false) (rest : List String) :
    let front := program :: options.flatMap words
    complete (front ++ word :: rest) = front ++
        (if word ∈ commandNames then word :: rest else "run" :: word :: rest) ↔
      ∀ path, options.findSome? strayValue? = some path →
        path.text ∈ commandNames ∧ word ∈ commandNames := by
  intro front
  rw [← insertRun_of_noDash hword, List.cons_append, List.cons_append, complete,
    List.cons_inj_right]
  cases hstray : options.findSome? strayValue? with
  | none =>
    have hpassed := isPassed_flatMap (List.findSome?_eq_none_iff.mp hstray)
    simp [hpassed.insertRun_append]
  | some path =>
    obtain ⟨before, after, hpassed, hsplit⟩ := exists_split_at_strayValue hstray
    have hplace := insertRun_cons_append_iff path.noDash hword after rest
    rw [hsplit, List.append_assoc, List.cons_append, hpassed.insertRun_append, List.append_assoc,
      List.append_cancel_left_eq, List.cons_append, hplace]
    simp

theorem complete_options_registry_named_run :
    let options := [noColor, verboseLetters 1, registry false ⟨"run", by decide, by decide⟩]
    hasDash "s.fv" = false ∧
      options.flatMap words = ["--no-color", "-vv", "--registry", "run"] ∧
      complete ["flexverb", "--no-color", "-vv", "--registry", "run", "s.fv", "-q"] =
        ["flexverb", "--no-color", "-vv", "--registry", "run", "run", "s.fv", "-q"] := by
  intro options
  have hdash : hasDash "s.fv" = false := by decide
  have hwords : options.flatMap words = ["--no-color", "-vv", "--registry", "run"] := by decide
  have hcomplete := complete_options_iff "flexverb" options hdash ["-q"]
  rw [hwords] at hcomplete
  refine ⟨hdash, hwords, hcomplete.mpr ?_⟩
  intro path hpath
  cases hpath

/-- A registry that is named after `-vr` is taken for the script, and the command line cannot be
read any more. It can be if the search goes on to the script. -/
theorem complete_stray_value :
    let registry : OptionValue := ⟨"r.toml", by decide, by decide⟩
    [registryLetter 1 false registry].flatMap words = ["-vr", "r.toml"] ∧
      complete ["flexverb", "-vr", "r.toml", "s.fv"] =
        ["flexverb", "-vr", "run", "r.toml", "s.fv"] ∧
      complete ["flexverb", "-vr", "r.toml", "s.fv"] ≠
        ["flexverb", "-vr", "r.toml", "run", "s.fv"] ∧
      Request.ofWords ["-vr", "run", "r.toml", "s.fv"] = .error .usage ∧
      Request.ofWords ["-vr", "r.toml", "run", "s.fv"] =
        .ok ⟨.run "s.fv" false false false, some "r.toml", true⟩ := by
  intro registry
  refine ⟨by decide, by decide, by decide, by decide +kernel, by decide +kernel⟩

end SharedOption

end FreeOrder.CommandLine
