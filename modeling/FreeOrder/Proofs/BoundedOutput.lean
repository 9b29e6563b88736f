import FreeOrder.Proofs.LineOutput

namespace FreeOrder

def Text.utf8 (text : String) : List UInt8 :=
  text.toUTF8.data.toList

theorem Text.utf8_append (front back : String) : utf8 (front ++ back) = utf8 front ++ utf8 back := by
  simp [utf8]

def outputTranscript (calls : List Invocation) : String :=
  transcript (calls.filter (·.action = .output))

namespace Output

variable {capacity : Nat} {refusal : Refusal} {output middle final : Output}
  {bytes front back more : List UInt8} {result : Except RuntimeError Unit} {error : RuntimeError}

/-- The output is offered the bytes until none is left, and takes some more of them each time that
there is room. Once it is full it takes no more, and that fails. -/
inductive Takes : List UInt8 → Output → Except RuntimeError Unit → Output → Prop
  | all (output : Output) : Takes [] output (.ok ()) output
  | some {output : Output} {piece rest : List UInt8} {result : Except RuntimeError Unit}
      {final : Output} (hne : piece ≠ [])
      (hroom : ∀ capacity, output.capacity = some capacity →
        output.written.length + piece.length ≤ capacity)
      (hrest : Takes rest { output with written := output.written ++ piece } result final) :
      Takes (piece ++ rest) output result final
  | full {output : Output} {bytes : List UInt8} {capacity : Nat} (hne : bytes ≠ [])
      (hcapacity : output.capacity = some capacity) (hfull : capacity ≤ output.written.length) :
      Takes bytes output (.error (.outputFailed output.refusal.reason)) output

/-- The output is offered the argument as a line: first its bytes, and then a line feed if they have
all been taken. -/
inductive TakesLine (argument : String) (output : Output) :
    Except RuntimeError Unit → Output → Prop
  | whole {middle final : Output} {result : Except RuntimeError Unit}
      (hargument : Takes (Text.utf8 argument) output (.ok ()) middle)
      (hend : Takes (Text.utf8 "\n") middle result final) : TakesLine argument output result final
  | cut {final : Output} {error : RuntimeError}
      (hargument : Takes (Text.utf8 argument) output (.error error) final) :
      TakesLine argument output (.error error) final

theorem write_nil (output : Output) : output.write [] = (.ok (), output) := by
  rw [write]
  split <;> simp

theorem write_append (output : Output) (front back : List UInt8) :
    output.write (front ++ back) =
      match output.write front with
      | (.ok (), middle) => middle.write back
      | (.error error, final) => (.error error, final) := by
  obtain ⟨written, capacity, refusal⟩ := output
  cases capacity with
  | none => simp [write]
  | some capacity =>
    by_cases hroom : front.length ≤ capacity - written.length
    · have hback : capacity - (written.length + front.length) =
          capacity - written.length - front.length := by omega
      simp [write, List.take_append, List.take_of_length_le hroom, hback]
    · have hnone : capacity - written.length - front.length = 0 := by omega
      have hcut : ¬ min (capacity - written.length) front.length = front.length := by omega
      have hcut' : ¬ min (capacity - written.length) front.length =
          front.length + back.length := by omega
      simp [write, List.take_append, hnone, hcut, hcut']

theorem write_of_room (h : ∀ capacity, output.capacity = some capacity →
    output.written.length + bytes.length ≤ capacity) :
    output.write bytes = (.ok (), { output with written := output.written ++ bytes }) := by
  obtain ⟨written, capacity, refusal⟩ := output
  cases capacity with
  | none => rfl
  | some capacity =>
    have hroom := h capacity rfl
    have hfits : bytes.length ≤ capacity - written.length := by
      dsimp only at hroom
      omega
    simp [write, List.take_of_length_le hfits]

theorem write_of_full (hne : bytes ≠ []) (hcapacity : output.capacity = some capacity)
    (hfull : capacity ≤ output.written.length) :
    output.write bytes = (.error (.outputFailed output.refusal.reason), output) := by
  obtain ⟨written, _, refusal⟩ := output
  cases hcapacity
  have hnone : capacity - written.length = 0 := Nat.sub_eq_zero_of_le hfull
  simp [write, hnone, eq_comm, hne]

theorem Takes.write_eq (h : Takes bytes output result final) :
    output.write bytes = (result, final) := by
  induction h with
  | all output => exact write_nil output
  | some _ hroom _ ih =>
    rw [write_append, write_of_room hroom]
    exact ih
  | full hne hcapacity hfull => exact write_of_full hne hcapacity hfull

theorem exists_takes (bytes : List UInt8) (output : Output) :
    ∃ result final, Takes bytes output result final := by
  -- One byte at a time will do.
  induction bytes generalizing output with
  | nil => exact ⟨_, _, .all output⟩
  | cons byte bytes ih =>
    by_cases hfull : ∃ capacity, output.capacity = some capacity ∧ capacity ≤ output.written.length
    · obtain ⟨capacity, hcapacity, hfull⟩ := hfull
      exact ⟨_, _, .full (List.cons_ne_nil byte bytes) hcapacity hfull⟩
    · obtain ⟨result, final, hrest⟩ := ih { output with written := output.written ++ [byte] }
      refine ⟨result, final, .some (List.cons_ne_nil byte []) ?_ hrest⟩
      intro capacity hcapacity
      apply Nat.lt_of_not_le
      intro hle
      exact hfull ⟨capacity, hcapacity, hle⟩

/-- In whatever pieces the bytes are taken, they are written as if all at once. -/
theorem takes_iff : Takes bytes output result final ↔ output.write bytes = (result, final) := by
  apply Iff.intro
  · exact Takes.write_eq
  · intro h
    obtain ⟨result', final', htakes⟩ := exists_takes bytes output
    rw [htakes.write_eq] at h
    cases h
    exact htakes

theorem takesLine_iff {argument : String} : TakesLine argument output result final ↔
    output.write (Text.utf8 (argument ++ "\n")) = (result, final) := by
  rw [Text.utf8_append, write_append]
  apply Iff.intro
  · intro h
    cases h with
    | whole hargument hend =>
      rw [takes_iff.mp hargument]
      exact takes_iff.mp hend
    | cut hargument => rw [takes_iff.mp hargument]
  · intro h
    obtain ⟨first, middle, hargument⟩ := exists_takes (Text.utf8 argument) output
    rw [takes_iff.mp hargument] at h
    cases first with
    | ok => exact .whole hargument (takes_iff.mpr h)
    | error error =>
      cases h
      exact .cut hargument

/-- The output that takes only so many bytes, after it has been given these as far as they fit. -/
def given (capacity : Nat) (refusal : Refusal) (bytes : List UInt8) : Output :=
  ⟨bytes.take capacity, some capacity, refusal⟩

theorem write_given (hne : more ≠ []) : (given capacity refusal bytes).write more =
    (if (bytes ++ more).length ≤ capacity then .ok ()
      else .error (.outputFailed refusal.reason), given capacity refusal (bytes ++ more)) := by
  have hroom : capacity - (bytes.take capacity).length = capacity - bytes.length := by
    rw [List.length_take]
    omega
  have hfits : (more.take (capacity - bytes.length)).length = more.length ↔
      (bytes ++ more).length ≤ capacity := by
    have hpos := List.length_pos_iff.mpr hne
    rw [List.length_take, List.length_append]
    omega
  simp only [write, given, hroom, hfits, List.take_append]

end Output

section Transcript

variable {calls : List Invocation} {call : Invocation}

theorem outputTranscript_append (front back : List Invocation) :
    outputTranscript (front ++ back) = outputTranscript front ++ outputTranscript back := by
  simp [outputTranscript, transcript]

theorem outputTranscript_of_output (h : call.action = .output) :
    outputTranscript [call] = call.line := by
  simp [outputTranscript, transcript, h]

theorem outputTranscript_of_other (h : call.action ≠ .output) : outputTranscript [call] = "" := by
  simp [outputTranscript, transcript, h]

theorem Invocation.utf8_line_ne_nil (invocation : Invocation) :
    Text.utf8 invocation.line ≠ [] := by
  have hend : Text.utf8 "\n" ≠ [] := by decide
  rw [line, Text.utf8_append]
  exact List.append_ne_nil_of_right_ne_nil _ hend

end Transcript

namespace Handler

variable {capacity : Nat} {refusal : Refusal} {bytes : List UInt8} {call : Invocation}
  {output : Output}

theorem output_given_of_output (h : call.action = .output) :
    Handler.output call.action call.argument (.given capacity refusal bytes) =
      (if (bytes ++ Text.utf8 (outputTranscript [call])).length ≤ capacity then .ok ()
        else .error (.outputFailed refusal.reason),
        .given capacity refusal (bytes ++ Text.utf8 (outputTranscript [call]))) := by
  rw [outputTranscript_of_output h]
  refine (ofWrite_of_output h).trans ?_
  exact Output.write_given call.utf8_line_ne_nil

/-- A call keeps to what was given to the output, with its line added if it is for output. -/
theorem output_after_call (call : Invocation) :
    Handler.output.after (.given capacity refusal bytes) [call] =
      .given capacity refusal (bytes ++ Text.utf8 (outputTranscript [call])) := by
  by_cases h : call.action = .output
  · exact congrArg Prod.snd (output_given_of_output h)
  · rw [outputTranscript_of_other h]
    refine (congrArg Prod.snd (ofWrite_of_other h)).trans ?_
    exact congrArg (Output.given capacity refusal) (List.append_nil bytes).symm

/-- What an output holds after any calls is the beginning of all the lines that it was given. -/
theorem output_after (calls : List Invocation) :
    Handler.output.after (.given capacity refusal bytes) calls =
      .given capacity refusal (bytes ++ Text.utf8 (outputTranscript calls)) := by
  induction calls generalizing bytes with
  | nil => exact congrArg (Output.given capacity refusal) (List.append_nil bytes).symm
  | cons call calls ih =>
    rw [← List.singleton_append, after_append, output_after_call, ih, outputTranscript_append,
      Text.utf8_append, List.append_assoc]

end Handler

/-- Calls on an output that takes only so many bytes, made one after the other whatever comes of
them. The output holds the beginning of all their lines. A call for output succeeds exactly if the
lines fit up to its own, and any other call is turned down and changes nothing. -/
structure CutsOff (capacity : Nat) (refusal : Refusal) (calls : List Invocation) : Prop where
  written : (Handler.output.after { capacity := some capacity, refusal } calls).written =
    (Text.utf8 (outputTranscript calls)).take capacity
  printed : ∀ index call, calls[index]? = some call → call.action = .output →
    Handler.output.answer call
        (Handler.output.after { capacity := some capacity, refusal } (calls.take index)) =
      if (Text.utf8 (outputTranscript (calls.take (index + 1)))).length ≤ capacity then .ok ()
      else .error (.outputFailed refusal.reason)
  turnedDown : ∀ index call, calls[index]? = some call → call.action ≠ .output →
    Handler.output.answer call
        (Handler.output.after { capacity := some capacity, refusal } (calls.take index)) =
      .error (.unsupportedAction call.action) ∧
    Handler.output.after { capacity := some capacity, refusal } (calls.take (index + 1)) =
      Handler.output.after { capacity := some capacity, refusal } (calls.take index)

/-- Something that a host does: it interprets a sentence, or carries out a script. -/
inductive Task
  | interpret (registry : Registry) (terms : List Term)
  | execute (registry : Registry) (script : Script)

namespace Task

variable {σ : Type} {handler : Handler σ} {state : σ}

def perform (handler : Handler σ) (state : σ) : Task → σ
  | interpret registry terms => (registry.interpret handler terms state).2
  | execute registry script => (script.execute registry handler state).2

def performAll (handler : Handler σ) (state : σ) (tasks : List Task) : σ :=
  tasks.foldl (perform handler) state

theorem execute_snd (script : Script) (registry : Registry) (handler : Handler σ) (state : σ) :
    (script.execute registry handler state).2 =
      (Statement.performAll registry handler script.source script.statements state).2 := by
  rw [Script.execute]
  generalize Statement.performAll registry handler script.source script.statements state = run
  obtain ⟨result, final⟩ := run
  cases result <;> rfl

theorem perform_logged (task : Task) (handler : Handler σ) (state : σ) (calls : List Invocation) :
    ∃ made, task.perform handler state = handler.after state made ∧
      task.perform handler.logged (state, calls) = (handler.after state made, calls ++ made) := by
  cases task with
  | interpret registry terms =>
    simp only [perform, Registry.interpret]
    cases registry.resolve terms with
    | error error => exact ⟨[], rfl, by rw [List.append_nil]; rfl⟩
    | ok invocation => exact ⟨[invocation], rfl, rfl⟩
  | execute registry script =>
    simp only [perform, execute_snd]
    rw [Statement.performAll_logged script.statements state calls]
    rcases handler.accepts_or_refusesAt state (Statement.resolvedPrefix registry script.statements)
      with h | ⟨index, error, h⟩
    · rw [Statement.performAll_of_accepts calls h]
      exact ⟨_, rfl, rfl⟩
    · obtain ⟨statement, _, hrun⟩ := Statement.performAll_of_refusesAt calls h
      rw [hrun]
      exact ⟨_, rfl, rfl⟩

/-- Tasks leave the state that the calls leave which they make. -/
theorem performAll_logged (tasks : List Task) (handler : Handler σ) (state : σ)
    (calls : List Invocation) :
    ∃ made, performAll handler state tasks = handler.after state made ∧
      performAll handler.logged (state, calls) tasks =
        (handler.after state made, calls ++ made) := by
  induction tasks generalizing state calls with
  | nil => exact ⟨[], rfl, by rw [List.append_nil]; rfl⟩
  | cons task tasks ih =>
    obtain ⟨made, hstate, hlogged⟩ := task.perform_logged handler state calls
    obtain ⟨more, hrest, hcalls⟩ := ih (handler.after state made) (calls ++ made)
    refine ⟨made ++ more, ?_, ?_⟩
    · rw [performAll, List.foldl_cons, hstate, Handler.after_append]
      exact hrest
    · rw [performAll, List.foldl_cons, hlogged, Handler.after_append, ← List.append_assoc]
      exact hcalls

end Task

theorem cutsOff (capacity : Nat) (refusal : Refusal) (calls : List Invocation) :
    CutsOff capacity refusal calls := by
  have hempty : ({ capacity := some capacity, refusal } : Output) = .given capacity refusal [] := by
    rw [Output.given, List.take_nil]
  constructor
  · rw [hempty, Handler.output_after, List.nil_append]
    rfl
  · intro index call hindex houtput
    rw [hempty, Handler.output_after, List.nil_append, List.take_add_one, hindex, Option.toList,
      outputTranscript_append, Text.utf8_append]
    exact congrArg Prod.fst (Handler.output_given_of_output houtput)
  · intro index call hindex hother
    apply And.intro
    · exact congrArg Prod.fst (Handler.ofWrite_of_other hother)
    · rw [List.take_add_one, hindex, Option.toList, Handler.after_append]
      exact congrArg Prod.snd (Handler.ofWrite_of_other hother)

/-- An output that takes only so many bytes is cut off at exactly that many bytes of all the lines
that calls have for it, and no call succeeds that comes to lie beyond. So it is for the calls that
sentences and scripts make, and it does not matter in which pieces the bytes of a line are taken. -/
theorem output_cut_off (capacity : Nat) (refusal : Refusal) :
    let start : Output := { capacity := some capacity, refusal }
    (∀ calls, CutsOff capacity refusal calls) ∧
    (∀ tasks, ∃ final calls, Task.performAll Handler.output.logged (start, []) tasks =
        (final, calls) ∧ Task.performAll Handler.output start tasks = final ∧
        final = Handler.output.after start calls ∧
        final.written = (Text.utf8 (outputTranscript calls)).take capacity) ∧
    ∀ argument output result final, Handler.output .output argument output = (result, final) ↔
      Output.TakesLine (argument.getD "") output result final := by
  intro start
  refine ⟨cutsOff capacity refusal, ?_, ?_⟩
  · intro tasks
    obtain ⟨calls, hfinal, hlogged⟩ := Task.performAll_logged tasks Handler.output start []
    exact ⟨_, calls, hlogged, hfinal, rfl, (cutsOff capacity refusal calls).written⟩
  · intro argument output result final
    rw [Output.takesLine_iff]
    rfl

theorem output_cut_off_inside_line :
    let start : Output := { capacity := some 5, refusal := .noProgress }
    let calls : List Invocation := [⟨.output, some "é"⟩, ⟨⟨"exit"⟩, some "x"⟩, ⟨.output, none⟩,
      ⟨.output, some "ab"⟩]
    (Handler.output.after start calls).written = [195, 169, 10, 10, 97] ∧
      Handler.output.answer ⟨⟨"exit"⟩, some "x"⟩ (Handler.output.after start (calls.take 1)) =
        .error (.unsupportedAction ⟨"exit"⟩) ∧
      Handler.output.answer ⟨.output, none⟩ (Handler.output.after start (calls.take 2)) = .ok () ∧
      Handler.output.answer ⟨.output, some "ab"⟩ (Handler.output.after start (calls.take 3)) =
        .error (.outputFailed "failed to write whole buffer") := by
  intro start calls
  obtain ⟨hcalls, _⟩ := output_cut_off 5 .noProgress
  obtain ⟨hwritten, hprinted, hturnedDown⟩ := hcalls calls
  have hother : (⟨"exit"⟩ : Action) ≠ .output := by decide
  exact ⟨hwritten, (hturnedDown 1 _ rfl hother).1, hprinted 2 _ rfl rfl, hprinted 3 _ rfl rfl⟩

end FreeOrder
