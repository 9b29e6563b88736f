import FreeOrder.Execution

namespace FreeOrder

namespace Handler

variable {σ : Type} (handler : Handler σ)

def answer (invocation : Invocation) (state : σ) : Except RuntimeError Unit :=
  (handler invocation.action invocation.argument state).1

def after (state : σ) (invocations : List Invocation) : σ :=
  invocations.foldl
    (fun state invocation => (handler invocation.action invocation.argument state).2) state

def Accepts (state : σ) (invocations : List Invocation) : Prop :=
  ∀ i invocation, invocations[i]? = some invocation →
    handler.answer invocation (handler.after state (invocations.take i)) = .ok ()

/-- The call for the invocation at the index is the first to fail, and does so with the error. -/
def RefusesAt (state : σ) (invocations : List Invocation) (index : Nat)
    (error : RuntimeError) : Prop :=
  handler.Accepts state (invocations.take index) ∧
    ∃ invocation, invocations[index]? = some invocation ∧
      handler.answer invocation (handler.after state (invocations.take index)) = .error error

/-- The handler that also lists the calls that it gets, and is otherwise the same. -/
def logged : Handler (σ × List Invocation) :=
  fun action argument (state, calls) =>
    let (answer, state) := handler action argument state
    (answer, state, calls ++ [⟨action, argument⟩])

/-- The other handler does on the images of states what the handler does on the states. -/
def Follows {τ : Type} (other : Handler τ) (handler : Handler σ) (f : σ → τ) : Prop :=
  ∀ action argument state,
    other action argument (f state) = Prod.map id f (handler action argument state)

theorem follows_logged : handler.Follows handler.logged Prod.fst :=
  fun _ _ _ => rfl

variable {handler} {state : σ} {invocation : Invocation} {invocations : List Invocation}

theorem Follows.interpret {τ : Type} {other : Handler τ} {f : σ → τ}
    (h : other.Follows handler f) (registry : Registry) (terms : List Term) (state : σ) :
    registry.interpret other terms (f state) =
      Prod.map id f (registry.interpret handler terms state) := by
  unfold Registry.interpret
  split
  · rfl
  · exact h _ _ _

theorem accepts_nil : handler.Accepts state [] := by
  intro i invocation h
  cases h

theorem accepts_cons_iff : handler.Accepts state (invocation :: invocations) ↔
    handler.answer invocation state = .ok () ∧
      handler.Accepts (handler.after state [invocation]) invocations := by
  apply Iff.intro
  · intro h
    refine ⟨h 0 invocation rfl, ?_⟩
    intro i next hnext
    exact h (i + 1) next hnext
  · intro h i next hnext
    obtain ⟨hfirst, hrest⟩ := h
    cases i with
    | zero =>
      cases hnext
      exact hfirst
    | succ i => exact hrest i next hnext

theorem refusesAt_zero_iff {error : RuntimeError} :
    handler.RefusesAt state (invocation :: invocations) 0 error ↔
      handler.answer invocation state = .error error := by
  apply Iff.intro
  · intro h
    obtain ⟨_, first, hfirst, herror⟩ := h
    cases hfirst
    exact herror
  · intro h
    exact ⟨accepts_nil, invocation, rfl, h⟩

theorem refusesAt_succ_iff {index : Nat} {error : RuntimeError} :
    handler.RefusesAt state (invocation :: invocations) (index + 1) error ↔
      handler.answer invocation state = .ok () ∧
        handler.RefusesAt (handler.after state [invocation]) invocations index error := by
  apply Iff.intro
  · intro h
    obtain ⟨haccepts, hrefuses⟩ := h
    rw [List.take_succ_cons, accepts_cons_iff] at haccepts
    exact ⟨haccepts.1, haccepts.2, hrefuses⟩
  · intro h
    obtain ⟨hfirst, haccepts, hrefuses⟩ := h
    refine ⟨?_, hrefuses⟩
    rw [List.take_succ_cons, accepts_cons_iff]
    exact ⟨hfirst, haccepts⟩

theorem accepts_or_refusesAt (handler : Handler σ) (state : σ) (invocations : List Invocation) :
    handler.Accepts state invocations ∨
      ∃ index error, handler.RefusesAt state invocations index error := by
  induction invocations generalizing state with
  | nil => exact .inl accepts_nil
  | cons invocation invocations ih =>
    cases hanswer : handler.answer invocation state with
    | error error => exact .inr ⟨0, error, refusesAt_zero_iff.mpr hanswer⟩
    | ok =>
      rcases ih (handler.after state [invocation]) with haccepts | ⟨index, error, hrefuses⟩
      · exact .inl (accepts_cons_iff.mpr ⟨hanswer, haccepts⟩)
      · exact .inr ⟨index + 1, error, refusesAt_succ_iff.mpr ⟨hanswer, hrefuses⟩⟩

theorem RefusesAt.not_accepts {index : Nat} {error : RuntimeError}
    (h : handler.RefusesAt state invocations index error) :
    ¬ handler.Accepts state invocations := by
  intro haccepts
  obtain ⟨_, invocation, hindex, herror⟩ := h
  rw [haccepts index invocation hindex] at herror
  cases herror

theorem logged_answer (calls : List Invocation) :
    handler.logged.answer invocation (state, calls) = handler.answer invocation state := rfl

theorem logged_after (calls : List Invocation) : handler.logged.after (state, calls) [invocation] =
    (handler.after state [invocation], calls ++ [invocation]) := rfl

end Handler

namespace Statement

/-- The invocations of the longest run of statements, from the first on, that all resolve. -/
def resolvedPrefix (registry : Registry) (statements : List Statement) : List Invocation :=
  ((statements.map fun statement => registry.resolve statement.nodes).takeWhile
    Except.isOk).filterMap Except.toOption

variable {registry : Registry} {source : Nat} {statement : Statement} {statements : List Statement}
  {invocation : Invocation} {error : RuntimeError}

theorem resolvedPrefix_cons_ok (h : registry.resolve statement.nodes = .ok invocation) :
    resolvedPrefix registry (statement :: statements) =
      invocation :: resolvedPrefix registry statements := by
  rw [resolvedPrefix, List.map_cons, h]
  rfl

theorem resolvedPrefix_cons_error (h : registry.resolve statement.nodes = .error error) :
    resolvedPrefix registry (statement :: statements) = [] := by
  rw [resolvedPrefix, List.map_cons, h]
  rfl

theorem resolvedPrefix_length_le (registry : Registry) (statements : List Statement) :
    (resolvedPrefix registry statements).length ≤ statements.length := by
  induction statements with
  | nil => exact Nat.le_refl 0
  | cons statement statements ih =>
    cases h : registry.resolve statement.nodes with
    | error error =>
      rw [resolvedPrefix_cons_error h]
      exact Nat.zero_le _
    | ok invocation =>
      rw [resolvedPrefix_cons_ok h]
      exact Nat.succ_le_succ ih

theorem resolveAll_of_length_eq
    (h : (resolvedPrefix registry statements).length = statements.length) :
    resolveAll registry source statements = .ok (resolvedPrefix registry statements) := by
  induction statements with
  | nil => rfl
  | cons statement statements ih =>
    cases hresolve : registry.resolve statement.nodes with
    | error error =>
      rw [resolvedPrefix_cons_error hresolve] at h
      cases h
    | ok invocation =>
      rw [resolvedPrefix_cons_ok hresolve] at h ⊢
      simp only [resolveAll, hresolve, ih (Nat.succ.inj h)]
      rfl

/-- The statement after those that resolve is the one that checking complains about. -/
theorem resolveAll_of_length_lt (source : Nat)
    (h : (resolvedPrefix registry statements).length < statements.length) :
    ∃ statement error, statements[(resolvedPrefix registry statements).length]? = some statement ∧
      registry.resolve statement.nodes = .error error ∧
      resolveAll registry source statements = .error (statement.locate source error) := by
  induction statements with
  | nil => cases h
  | cons statement statements ih =>
    cases hresolve : registry.resolve statement.nodes with
    | error error =>
      rw [resolvedPrefix_cons_error hresolve]
      refine ⟨statement, error, rfl, hresolve, ?_⟩
      simp only [resolveAll, hresolve]
    | ok invocation =>
      rw [resolvedPrefix_cons_ok hresolve] at h ⊢
      obtain ⟨stuck, error, hstuck, herror, hrest⟩ := ih (Nat.lt_of_succ_lt_succ h)
      refine ⟨stuck, error, hstuck, herror, ?_⟩
      simp only [resolveAll, hresolve, hrest]
      rfl

theorem resolveAll_isOk_iff : (∃ found, resolveAll registry source statements = .ok found) ↔
    (resolvedPrefix registry statements).length = statements.length := by
  apply Iff.intro
  · intro h
    obtain ⟨found, hfound⟩ := h
    apply Nat.le_antisymm (resolvedPrefix_length_le registry statements)
    apply Nat.le_of_not_lt
    intro hlt
    obtain ⟨_, _, _, _, herror⟩ := resolveAll_of_length_lt source hlt
    rw [hfound] at herror
    cases herror
  · intro h
    exact ⟨_, resolveAll_of_length_eq h⟩

theorem length_resolvedPrefix_eq_iff :
    (resolvedPrefix registry statements).length = statements.length ↔
      ∀ statement ∈ statements, ∃ invocation,
        registry.resolve statement.nodes = .ok invocation := by
  induction statements with
  | nil => exact iff_of_true rfl (List.forall_mem_nil _)
  | cons statement statements ih =>
    rw [List.forall_mem_cons, ← ih]
    cases hresolve : registry.resolve statement.nodes with
    | error error =>
      rw [resolvedPrefix_cons_error hresolve]
      exact iff_of_false (fun h => nomatch h) fun h => nomatch h.1
    | ok invocation =>
      rw [resolvedPrefix_cons_ok hresolve, List.length_cons, List.length_cons, Nat.succ_inj]
      exact (and_iff_right ⟨invocation, rfl⟩).symm

section Run

variable {σ : Type} {handler : Handler σ} {state : σ}

theorem performAll_cons_unresolved (h : registry.resolve statement.nodes = .error error) :
    performAll registry handler source (statement :: statements) state =
      (.error (statement.locate source error), state) := by
  simp only [performAll, Registry.interpret, h]

theorem performAll_cons_error (h : registry.resolve statement.nodes = .ok invocation)
    (hanswer : handler.answer invocation state = .error error) :
    performAll registry handler source (statement :: statements) state =
      (.error (statement.locate source error), handler.after state [invocation]) := by
  have hcall : handler invocation.action invocation.argument state =
      (.error error, handler.after state [invocation]) := Prod.ext hanswer rfl
  simp only [performAll, Registry.interpret, h, hcall]

theorem performAll_cons_ok (h : registry.resolve statement.nodes = .ok invocation)
    (hanswer : handler.answer invocation state = .ok ()) :
    performAll registry handler source (statement :: statements) state =
      performAll registry handler source statements (handler.after state [invocation]) := by
  have hcall : handler invocation.action invocation.argument state =
      (.ok (), handler.after state [invocation]) := Prod.ext hanswer rfl
  simp only [performAll, Registry.interpret, h, hcall]

theorem performAll_logged_cons_error (calls : List Invocation)
    (h : registry.resolve statement.nodes = .ok invocation)
    (hanswer : handler.answer invocation state = .error error) :
    performAll registry handler.logged source (statement :: statements) (state, calls) =
      (.error (statement.locate source error), handler.after state [invocation],
        calls ++ [invocation]) := by
  rw [← Handler.logged_answer calls] at hanswer
  rw [performAll_cons_error h hanswer, Handler.logged_after]

theorem performAll_logged_cons_ok (calls : List Invocation)
    (h : registry.resolve statement.nodes = .ok invocation)
    (hanswer : handler.answer invocation state = .ok ()) :
    performAll registry handler.logged source (statement :: statements) (state, calls) =
      performAll registry handler.logged source statements
        (handler.after state [invocation], calls ++ [invocation]) := by
  rw [← Handler.logged_answer calls] at hanswer
  rw [performAll_cons_ok h hanswer, Handler.logged_after]

theorem performAll_append {middle : σ} {front : List Statement}
    (h : performAll registry handler source front state = (.ok (), middle))
    (back : List Statement) :
    performAll registry handler source (front ++ back) state =
      performAll registry handler source back middle := by
  induction front generalizing state with
  | nil =>
    cases h
    rfl
  | cons statement front ih =>
    rw [List.cons_append]
    simp only [performAll] at h ⊢
    split at h
    · cases h
    · exact ih h

theorem performAll_map {τ : Type} {other : Handler τ} {f : σ → τ} (h : other.Follows handler f)
    (statements : List Statement) (state : σ) :
    performAll registry other source statements (f state) =
      Prod.map id f (performAll registry handler source statements state) := by
  induction statements generalizing state with
  | nil => rfl
  | cons statement statements ih =>
    rw [performAll, performAll, h.interpret]
    obtain ⟨result, next⟩ := registry.interpret handler statement.nodes state
    cases result with
    | error error => rfl
    | ok => exact ih next

theorem performAll_logged (statements : List Statement) (state : σ) (calls : List Invocation) :
    performAll registry handler source statements state =
      ((performAll registry handler.logged source statements (state, calls)).1,
        (performAll registry handler.logged source statements (state, calls)).2.1) :=
  performAll_map handler.follows_logged statements (state, calls)

/-- A handler that accepts them all is called for the invocations that resolve, and the result is
that of checking. -/
theorem performAll_of_accepts (calls : List Invocation)
    (h : handler.Accepts state (resolvedPrefix registry statements)) :
    performAll registry handler.logged source statements (state, calls) =
      ((resolveAll registry source statements).map fun _ => (),
        handler.after state (resolvedPrefix registry statements),
        calls ++ resolvedPrefix registry statements) := by
  induction statements generalizing state calls with
  | nil => simp [performAll, resolveAll, resolvedPrefix, Handler.after, Except.map]
  | cons statement statements ih =>
    cases hresolve : registry.resolve statement.nodes with
    | error error =>
      rw [performAll_cons_unresolved hresolve, resolvedPrefix_cons_error hresolve, List.append_nil]
      simp only [resolveAll, hresolve]
      rfl
    | ok invocation =>
      rw [resolvedPrefix_cons_ok hresolve] at h ⊢
      obtain ⟨hanswer, hrest⟩ := Handler.accepts_cons_iff.mp h
      rw [performAll_logged_cons_ok calls hresolve hanswer, ih _ hrest, List.append_assoc,
        List.singleton_append]
      simp only [resolveAll, hresolve]
      cases resolveAll registry source statements <;> rfl

/-- A handler that refuses a call gets no other call after it, and its error is the result. -/
theorem performAll_of_refusesAt {index : Nat} (calls : List Invocation)
    (h : handler.RefusesAt state (resolvedPrefix registry statements) index error) :
    ∃ statement, statements[index]? = some statement ∧
      performAll registry handler.logged source statements (state, calls) =
        (.error (statement.locate source error),
          handler.after state ((resolvedPrefix registry statements).take (index + 1)),
          calls ++ (resolvedPrefix registry statements).take (index + 1)) := by
  -- The index counts calls and statements alike, since every statement before it resolves.
  induction statements generalizing state calls index with
  | nil =>
    obtain ⟨_, _, hindex, _⟩ := h
    cases hindex
  | cons statement statements ih =>
    cases hresolve : registry.resolve statement.nodes with
    | error error =>
      rw [resolvedPrefix_cons_error hresolve] at h
      obtain ⟨_, _, hindex, _⟩ := h
      cases hindex
    | ok invocation =>
      rw [resolvedPrefix_cons_ok hresolve] at h ⊢
      cases index with
      | zero =>
        have hanswer := Handler.refusesAt_zero_iff.mp h
        refine ⟨statement, rfl, ?_⟩
        exact performAll_logged_cons_error calls hresolve hanswer
      | succ index =>
        obtain ⟨hanswer, hrest⟩ := Handler.refusesAt_succ_iff.mp h
        obtain ⟨refused, hrefused, hrun⟩ := ih (calls ++ [invocation]) hrest
        refine ⟨refused, hrefused, ?_⟩
        rw [performAll_logged_cons_ok calls hresolve hanswer, hrun, List.append_assoc,
          List.singleton_append, List.take_succ_cons]
        rfl

end Run

end Statement

namespace Script

def invocations (script : Script) (registry : Registry) : List Invocation :=
  Statement.resolvedPrefix registry script.statements

variable {σ : Type} {script : Script} {registry : Registry} {handler : Handler σ} {state : σ}

theorem check_isOk_iff : (∃ found, script.check registry = .ok found) ↔
    (script.invocations registry).length = script.statements.length :=
  Statement.resolveAll_isOk_iff

theorem execute_map {τ : Type} {other : Handler τ} {f : σ → τ} (h : other.Follows handler f)
    (script : Script) (registry : Registry) (state : σ) :
    script.execute registry other (f state) =
      Prod.map id f (script.execute registry handler state) := by
  rw [execute, execute, Statement.performAll_map h]
  obtain ⟨result, final⟩ :=
    Statement.performAll registry handler script.source script.statements state
  cases result <;> rfl

theorem execute_logged (script : Script) (registry : Registry) (handler : Handler σ) (state : σ) :
    script.execute registry handler state =
      ((script.execute registry handler.logged (state, [])).1,
        (script.execute registry handler.logged (state, [])).2.1) :=
  execute_map handler.follows_logged script registry (state, [])

theorem execute_of_accepts (h : handler.Accepts state (script.invocations registry)) :
    script.execute registry handler.logged (state, []) =
      ((script.check registry).map fun _ => script.statements.length,
        handler.after state (script.invocations registry), script.invocations registry) := by
  rw [execute, check, Statement.performAll_of_accepts [] h]
  cases Statement.resolveAll registry script.source script.statements <;> rfl

theorem execute_of_refusesAt {index : Nat} {error : RuntimeError}
    (h : handler.RefusesAt state (script.invocations registry) index error) :
    ∃ statement, script.statements[index]? = some statement ∧
      script.execute registry handler.logged (state, []) =
        (.error (statement.locate script.source error),
          handler.after state ((script.invocations registry).take (index + 1)),
          (script.invocations registry).take (index + 1)) := by
  obtain ⟨statement, hindex, hrun⟩ := Statement.performAll_of_refusesAt [] h
  refine ⟨statement, hindex, ?_⟩
  rw [execute, hrun]
  rfl

theorem execute_eq_ok_iff {count : Nat} :
    (script.execute registry handler.logged (state, [])).1 = .ok count ↔
      count = script.statements.length ∧
        (script.invocations registry).length = script.statements.length ∧
        handler.Accepts state (script.invocations registry) := by
  rcases handler.accepts_or_refusesAt state (script.invocations registry) with h | ⟨index, error, h⟩
  · rw [execute_of_accepts h, ← check_isOk_iff]
    cases script.check registry with
    | error error => simp [Except.map]
    | ok found => simp [Except.map, h, eq_comm]
  · obtain ⟨statement, _, hrun⟩ := execute_of_refusesAt h
    simp [hrun, h.not_accepts]

/-- Execution refines checking, whatever the handler. It is called for the invocations up to the
first that it refuses, once each and in their order. If it refuses none, the result is the error
that checking reports, or else the number of statements; if it refuses one, its error is the
result, at the place that it has in the statement. -/
theorem execute_refines_check (script : Script) (registry : Registry) (handler : Handler σ)
    (state : σ) :
    let invocations := script.invocations registry
    let run := script.execute registry handler.logged (state, [])
    script.execute registry handler state = (run.1, run.2.1) ∧
      (handler.Accepts state invocations ∨
        ∃ index error, handler.RefusesAt state invocations index error) ∧
      (handler.Accepts state invocations →
        run.2 = (handler.after state invocations, invocations) ∧
          (invocations.length < script.statements.length →
            ∃ error, run.1 = .error error ∧ script.check registry = .error error)) ∧
      (∀ index error, handler.RefusesAt state invocations index error →
        run.2 = (handler.after state (invocations.take (index + 1)), invocations.take (index + 1)) ∧
          ∃ statement, script.statements[index]? = some statement ∧
            run.1 = .error (statement.locate script.source error)) ∧
      (∀ count, run.1 = .ok count ↔ count = script.statements.length ∧
        invocations.length = script.statements.length ∧ handler.Accepts state invocations) ∧
      (∀ count, run.1 = .ok count → script.check registry = .ok invocations) ∧
      ((∃ found, script.check registry = .ok found) ↔
        invocations.length = script.statements.length) := by
  refine ⟨execute_logged script registry handler state,
    handler.accepts_or_refusesAt state (script.invocations registry), ?_, ?_, ?_, ?_,
    check_isOk_iff⟩
  · intro haccepts
    rw [execute_of_accepts haccepts]
    refine ⟨rfl, ?_⟩
    intro hlt
    obtain ⟨statement, error, _, _, hcheck⟩ := Statement.resolveAll_of_length_lt script.source hlt
    refine ⟨statement.locate script.source error, ?_, hcheck⟩
    rw [check, hcheck]
    rfl
  · intro index error hrefuses
    obtain ⟨statement, hindex, hrun⟩ := execute_of_refusesAt hrefuses
    rw [hrun]
    exact ⟨rfl, statement, hindex, rfl⟩
  · intro count
    exact execute_eq_ok_iff
  · intro count hcount
    exact Statement.resolveAll_of_length_eq (execute_eq_ok_iff.mp hcount).2.1

end Script

end FreeOrder
