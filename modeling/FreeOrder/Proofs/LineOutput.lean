import FreeOrder.Output
import FreeOrder.Proofs.ScriptExecution

namespace FreeOrder

def Invocation.line (invocation : Invocation) : String :=
  invocation.argument.getD "" ++ "\n"

def transcript (invocations : List Invocation) : String :=
  String.join (invocations.map Invocation.line)

def AllOutput (invocations : List Invocation) : Prop :=
  ∀ invocation ∈ invocations, invocation.action = .output

structure FirstOther (invocations : List Invocation) (index : Nat) (invocation : Invocation) :
    Prop where
  before : AllOutput (invocations.take index)
  getElem?_eq : invocations[index]? = some invocation
  action_ne : invocation.action ≠ .output

def NeverFails {σ : Type} (write : String → σ → Except RuntimeError Unit × σ) : Prop :=
  ∀ line state, (write line state).1 = .ok ()

namespace Handler

variable {σ : Type} {write : String → σ → Except RuntimeError Unit × σ} {state : σ}
  {invocation : Invocation} {invocations : List Invocation} {index : Nat} {error : RuntimeError}

theorem ofWrite_of_output (h : invocation.action = .output) :
    ofWrite write invocation.action invocation.argument state = write invocation.line state := by
  rw [ofWrite, if_pos h]
  rfl

theorem ofWrite_of_other (h : invocation.action ≠ .output) :
    ofWrite write invocation.action invocation.argument state =
      (.error (.unsupportedAction invocation.action), state) := by
  rw [ofWrite, if_neg h]

theorem answer_eq_ok_iff (hwrite : NeverFails write) :
    (ofWrite write).answer invocation state = .ok () ↔ invocation.action = .output := by
  rw [answer]
  by_cases h : invocation.action = .output
  · rw [ofWrite_of_output h]
    exact iff_of_true (hwrite _ _) h
  · rw [ofWrite_of_other h]
    simp [h]

theorem answer_eq_error_iff (hwrite : NeverFails write) :
    (ofWrite write).answer invocation state = .error error ↔
      invocation.action ≠ .output ∧ error = .unsupportedAction invocation.action := by
  rw [answer]
  by_cases h : invocation.action = .output
  · rw [ofWrite_of_output h, hwrite]
    simp [h]
  · rw [ofWrite_of_other h]
    simp [h, eq_comm]

theorem accepts_iff (hwrite : NeverFails write) :
    (ofWrite write).Accepts state invocations ↔ AllOutput invocations := by
  apply Iff.intro
  · intro h invocation hmem
    obtain ⟨i, hi⟩ := List.mem_iff_getElem?.mp hmem
    exact (answer_eq_ok_iff hwrite).mp (h i invocation hi)
  · intro h i invocation hi
    exact (answer_eq_ok_iff hwrite).mpr (h invocation (List.mem_of_getElem? hi))

theorem refusesAt_iff (hwrite : NeverFails write) :
    (ofWrite write).RefusesAt state invocations index error ↔
      ∃ invocation, FirstOther invocations index invocation ∧
        error = .unsupportedAction invocation.action := by
  apply Iff.intro
  · intro h
    obtain ⟨hbefore, invocation, hindex, hanswer⟩ := h
    obtain ⟨hother, herror⟩ := (answer_eq_error_iff hwrite).mp hanswer
    exact ⟨invocation, ⟨(accepts_iff hwrite).mp hbefore, hindex, hother⟩, herror⟩
  · intro h
    obtain ⟨invocation, ⟨hbefore, hindex, hother⟩, herror⟩ := h
    refine ⟨(accepts_iff hwrite).mpr hbefore, invocation, hindex, ?_⟩
    exact (answer_eq_error_iff hwrite).mpr ⟨hother, herror⟩

theorem after_append (handler : Handler σ) (state : σ) (front back : List Invocation) :
    handler.after state (front ++ back) = handler.after (handler.after state front) back :=
  List.foldl_append

/-- A call that is not for output changes nothing. -/
theorem after_take_succ (h : FirstOther invocations index invocation) :
    (ofWrite write).after state (invocations.take (index + 1)) =
      (ofWrite write).after state (invocations.take index) := by
  rw [List.take_add_one, h.getElem?_eq, after_append]
  exact congrArg Prod.snd (ofWrite_of_other h.action_ne)

theorem text_after (written : String) (h : AllOutput invocations) :
    text.after written invocations = written ++ transcript invocations := by
  induction invocations generalizing written with
  | nil => exact String.append_empty.symm
  | cons invocation invocations ih =>
    obtain ⟨hfirst, hrest⟩ := List.forall_mem_cons.mp h
    have hstep : text.after written [invocation] = written ++ invocation.line :=
      congrArg Prod.snd (ofWrite_of_output hfirst)
    rw [← List.singleton_append, after_append, hstep, ih _ hrest, transcript, transcript,
      List.singleton_append, List.map_cons, String.join_cons, String.append_assoc]

theorem text_neverFails : NeverFails fun line (text : String) => (.ok (), text ++ line) :=
  fun _ _ => rfl

theorem silent_neverFails : NeverFails fun _ (state : Unit) => (.ok (), state) :=
  fun _ _ => rfl

end Handler

theorem allOutput_or_firstOther (invocations : List Invocation) :
    AllOutput invocations ∨ ∃ index invocation, FirstOther invocations index invocation := by
  rcases Handler.silent.accepts_or_refusesAt () invocations with h | ⟨index, error, h⟩
  · exact .inl ((Handler.accepts_iff Handler.silent_neverFails).mp h)
  · obtain ⟨invocation, hother, _⟩ := (Handler.refusesAt_iff Handler.silent_neverFails).mp h
    exact .inr ⟨index, invocation, hother⟩

namespace Statement

/-- All that resolves is everything and for output if each statement resolves for output. -/
theorem allOutput_resolvedPrefix_iff {registry : Registry} {statements : List Statement} :
    (resolvedPrefix registry statements).length = statements.length ∧
        AllOutput (resolvedPrefix registry statements) ↔
      ∀ statement ∈ statements, ∃ argument,
        registry.resolve statement.nodes = .ok ⟨.output, argument⟩ := by
  induction statements with
  | nil => simp [resolvedPrefix, AllOutput]
  | cons statement statements ih =>
    rw [List.forall_mem_cons, ← ih]
    cases h : registry.resolve statement.nodes with
    | error error => simp [resolvedPrefix_cons_error h]
    | ok invocation =>
      obtain ⟨action, argument⟩ := invocation
      rw [resolvedPrefix_cons_ok h, AllOutput, List.forall_mem_cons, List.length_cons,
        List.length_cons, Nat.add_right_cancel_iff]
      simp [AllOutput, and_left_comm]

end Statement

namespace Script

variable {script : Script} {registry : Registry} {σ τ : Type}
  {write : String → σ → Except RuntimeError Unit × σ} {state : σ} {index : Nat}
  {invocation : Invocation}

/-- Where all that resolves is for output, a script fails as it does when it is checked. -/
theorem execute_of_allOutput (hwrite : NeverFails write)
    (h : AllOutput (script.invocations registry)) :
    script.execute registry (.ofWrite write) state =
      ((script.check registry).map fun _ => script.statements.length,
        (Handler.ofWrite write).after state (script.invocations registry)) := by
  rw [execute_logged, execute_of_accepts ((Handler.accepts_iff hwrite).mpr h)]

/-- A script stops at the first statement that is not for output. -/
theorem execute_of_firstOther (hwrite : NeverFails write)
    (h : FirstOther (script.invocations registry) index invocation) (state : σ) :
    ∃ statement, script.statements[index]? = some statement ∧
      script.execute registry (.ofWrite write) state =
        (.error (statement.locate script.source (.unsupportedAction invocation.action)),
          (Handler.ofWrite write).after state ((script.invocations registry).take index)) := by
  have hrefuses : (Handler.ofWrite write).RefusesAt state (script.invocations registry) index
      (.unsupportedAction invocation.action) := (Handler.refusesAt_iff hwrite).mpr ⟨_, h, rfl⟩
  obtain ⟨statement, hindex, hrun⟩ := execute_of_refusesAt hrefuses
  refine ⟨statement, hindex, ?_⟩
  rw [execute_logged, hrun, Handler.after_take_succ h]

theorem execute_isOk_iff (hwrite : NeverFails write) (script : Script) (registry : Registry)
    (state : σ) :
    (∃ count, (script.execute registry (.ofWrite write) state).1 = .ok count) ↔
      ∀ statement ∈ script.statements, ∃ argument,
        registry.resolve statement.nodes = .ok ⟨.output, argument⟩ := by
  rw [execute_logged, ← Statement.allOutput_resolvedPrefix_iff]
  simp only [execute_eq_ok_iff, Handler.accepts_iff hwrite, exists_eq_left]
  rfl

/-- As long as no write fails, where the output goes does not matter to the result. -/
theorem execute_fst_eq {write' : String → τ → Except RuntimeError Unit × τ}
    (hwrite : NeverFails write) (hwrite' : NeverFails write') (script : Script)
    (registry : Registry) (state : σ) (state' : τ) :
    (script.execute registry (.ofWrite write) state).1 =
      (script.execute registry (.ofWrite write') state').1 := by
  rcases allOutput_or_firstOther (script.invocations registry) with h | ⟨index, invocation, h⟩
  · rw [execute_of_allOutput hwrite h, execute_of_allOutput hwrite' h]
  · obtain ⟨statement, hindex, hrun⟩ := execute_of_firstOther hwrite h state
    obtain ⟨statement', hindex', hrun'⟩ := execute_of_firstOther hwrite' h state'
    rw [hindex, Option.some.injEq] at hindex'
    rw [hrun, hrun', hindex']

theorem execute_text_of_allOutput (h : AllOutput (script.invocations registry)) :
    script.execute registry .text "" =
      ((script.check registry).map fun _ => script.statements.length,
        transcript (script.invocations registry)) := by
  have hafter := Handler.text_after "" h
  rw [String.empty_append] at hafter
  rw [← hafter]
  exact execute_of_allOutput Handler.text_neverFails h

/-- A script that is carried out to its end writes the lines of all its invocations. -/
theorem execute_text_of_ok {count : Nat} (h : (script.execute registry .text "").1 = .ok count) :
    ∃ invocations, script.check registry = .ok invocations ∧
      (script.execute registry .text "").2 = transcript invocations := by
  have hall := (execute_isOk_iff Handler.text_neverFails script registry "").mp ⟨count, h⟩
  obtain ⟨hlength, houtput⟩ := Statement.allOutput_resolvedPrefix_iff.mpr hall
  refine ⟨_, Statement.resolveAll_of_length_eq hlength, ?_⟩
  rw [execute_text_of_allOutput houtput]
  rfl

theorem execute_text_of_firstOther (h : FirstOther (script.invocations registry) index invocation) :
    ∃ statement, script.statements[index]? = some statement ∧
      script.execute registry .text "" =
        (.error (statement.locate script.source (.unsupportedAction invocation.action)),
          transcript ((script.invocations registry).take index)) := by
  have hafter := Handler.text_after "" h.before
  rw [String.empty_append] at hafter
  rw [← hafter]
  exact execute_of_firstOther Handler.text_neverFails h ""

end Script

end FreeOrder
