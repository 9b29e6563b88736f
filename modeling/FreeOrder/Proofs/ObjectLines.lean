import FreeOrder.Proofs.BoundedOutput
import FreeOrder.Proofs.Command
import FreeOrder.Proofs.Culprit
import FreeOrder.Proofs.Writing

namespace FreeOrder

/-- The content of the object in the statement, as the excerpt has it between quotes. A statement
without an object has the empty content. -/
inductive Statement.HasContent (statement : Statement) (excerpt : Excerpt) : List Char → Prop
  | none (h : Role.directObject ∉ statement.nodes.map Term.role) : HasContent statement excerpt []
  | quoted {term : Located Term} {terse : Bool} {content : List Char}
      (hmem : term ∈ statement.terms) (hrole : term.node.role = .directObject)
      (hquote : '"' ∉ content)
      (hholds : excerpt.Holds term.span
        ((Role.directObject.written terse).toList ++ '(' :: '"' :: (content ++ ['"', ')']))) :
      HasContent statement excerpt content

/-- The bytes are those of one line for each of the statements, with the content of its object. -/
def PrintsContents (excerpt : Excerpt) (statements : List Statement) (bytes : List UInt8) : Prop :=
  ∃ (text : String) (contents : List (List Char)), bytes = Text.utf8 text ∧
    Text.lines text.toList = contents.map (· ++ ['\n']) ∧
    List.Forall₂ (·.HasContent excerpt ·) statements contents

theorem Text.lines_flatten {contents : List (List Char)}
    (h : ∀ content ∈ contents, '\n' ∉ content) :
    lines (contents.map (· ++ ['\n'])).flatten = contents.map (· ++ ['\n']) := by
  induction contents with
  | nil => rfl
  | cons content contents ih =>
    obtain ⟨hcontent, hrest⟩ := List.forall_mem_cons.mp h
    rw [List.map_cons, List.flatten_cons, List.append_assoc, List.singleton_append,
      lines_cons_line hcontent, ih hrest]

theorem Asks.object_cases {name : String} {argument : Option String} {terms : List Term}
    (h : Asks name argument terms) :
    (argument = none ∧ Role.directObject ∉ terms.map Term.role) ∨
      ∃ literal, argument = some (unquote literal) ∧ .directObject literal ∈ terms := by
  cases h with
  | alone => exact .inl ⟨rfl, by simp [Term.role]⟩
  | verbFirst literal => exact .inr ⟨literal, rfl, by simp⟩
  | objectFirst literal => exact .inr ⟨literal, rfl, by simp⟩

namespace Statement

variable {excerpt : Excerpt} {script : Script} {registry : Registry} {statement : Statement}
  {invocation : Invocation}

/-- What is written for a statement is the content of its object, which is on one line, as the
statement is. -/
theorem exists_hasContent (h : excerpt.readScript = .ok script)
    (hmem : statement ∈ script.statements)
    (hresolve : registry.resolve statement.nodes = .ok invocation) :
    ∃ content, statement.HasContent excerpt content ∧ '\n' ∉ content ∧
      invocation.line.toList = content ++ ['\n'] := by
  obtain ⟨name, hasks, _⟩ := Registry.resolve_eq_ok_iff.mp hresolve
  rcases hasks.object_cases with ⟨hnone, hobject⟩ | ⟨literal, hsome, hnode⟩
  · refine ⟨[], .none hobject, List.not_mem_nil, ?_⟩
    rw [Invocation.line, hnone]
    rfl
  · obtain ⟨term, hterm, hterm_node⟩ := List.mem_map.mp hnode
    obtain ⟨word, hword, hholds⟩ := holds_of_mem_statement h hmem hterm
    have hliteral : word.term = .directObject literal := by
      rw [← hterm_node, hword]
      rfl
    obtain ⟨content, hquote, rfl⟩ := word.exists_content hliteral
    have hfeed := (fitLine_nodes h hmem).not_mem _ hnode
    have htext : word.text = (Role.directObject.written word.terse).toList ++
        '(' :: '"' :: (content.toList ++ ['"', ')']) := by
      rw [Word.text, hliteral]
      simp [Term.role, Term.text]
    refine ⟨content.toList, .quoted hterm ?_ hquote (htext ▸ hholds), ?_, ?_⟩
    · rw [hterm_node]
      rfl
    · simpa [Term.text] using hfeed
    · rw [Invocation.line, hsome, unquote_quoted]
      simp

theorem exists_contents (h : excerpt.readScript = .ok script) {source : Nat}
    {statements : List Statement} (hsub : ∀ statement ∈ statements, statement ∈ script.statements)
    {invocations : List Invocation}
    (hresolve : resolveAll registry source statements = .ok invocations) :
    ∃ contents, List.Forall₂ (·.HasContent excerpt ·) statements contents ∧
      (∀ content ∈ contents, '\n' ∉ content) ∧
      (transcript invocations).toList = (contents.map (· ++ ['\n'])).flatten := by
  induction statements generalizing invocations with
  | nil =>
    cases hresolve
    exact ⟨[], .nil, List.forall_mem_nil _, rfl⟩
  | cons statement statements ih =>
    obtain ⟨hfirst, hrest⟩ := List.forall_mem_cons.mp hsub
    unfold resolveAll at hresolve
    split at hresolve
    · cases hresolve
    · rename_i invocation hinvocation
      obtain ⟨others, hothers, rfl⟩ := map_eq_ok_iff.mp hresolve
      obtain ⟨content, hcontent, hfeed, hline⟩ := exists_hasContent h hfirst hinvocation
      obtain ⟨contents, hcontents, hfeeds, hlines⟩ := ih hrest hothers
      refine ⟨content :: contents, .cons hcontent hcontents,
        List.forall_mem_cons.mpr ⟨hfeed, hfeeds⟩, ?_⟩
      rw [transcript, List.map_cons, String.join_cons, String.toList_append, hline,
        List.map_cons, List.flatten_cons, ← hlines]
      rfl

theorem printsContents (h : excerpt.readScript = .ok script) {source : Nat}
    {statements : List Statement} (hsub : ∀ statement ∈ statements, statement ∈ script.statements)
    {invocations : List Invocation}
    (hresolve : resolveAll registry source statements = .ok invocations) :
    PrintsContents excerpt statements (Text.utf8 (transcript invocations)) := by
  obtain ⟨contents, hcontents, hfeeds, hlines⟩ := exists_contents h hsub hresolve
  refine ⟨transcript invocations, contents, rfl, ?_, hcontents⟩
  rw [hlines, Text.lines_flatten hfeeds]

end Statement

namespace Handler

def outputOf (text : String) : Output where
  written := Text.utf8 text

theorem output_follows_text : Handler.output.Follows text outputOf := by
  intro action argument written
  by_cases h : action = .output
  · simp [Handler.output, text, ofWrite, h, Output.write, outputOf, Text.utf8]
  · simp [Handler.output, text, ofWrite, h]

end Handler

theorem Registry.interpret_error_snd {σ : Type}
    {write : String → σ → Except RuntimeError Unit × σ} (hwrite : NeverFails write)
    {registry : Registry} {terms : List Term} {state final : σ} {error : RuntimeError}
    (h : registry.interpret (.ofWrite write) terms state = (.error error, final)) :
    final = state := by
  unfold interpret at h
  split at h
  · cases h
    rfl
  · rename_i invocation hresolve
    by_cases houtput : invocation.action = .output
    · rw [Handler.ofWrite_of_output houtput] at h
      have hok := hwrite invocation.line state
      rw [h] at hok
      cases hok
    · rw [Handler.ofWrite_of_other houtput] at h
      cases h
      rfl

namespace Script

variable {σ : Type} {script : Script} {registry : Registry} {handler : Handler σ} {start final : σ}
  {index count : Nat} {located : LocatedError}

/-- Carrying out the script fails at the statement of the index, after all those before it have been
carried out. -/
def FailsAt (script : Script) (registry : Registry) (handler : Handler σ) (start : σ) (index : Nat)
    (located : LocatedError) : Prop :=
  ∃ statement error middle final, script.statements[index]? = some statement ∧
    execute ⟨script.statements.take index, script.source⟩ registry handler start =
      (.ok index, middle) ∧
    registry.interpret handler statement.nodes middle = (.error error, final) ∧
    located = statement.locate script.source error

theorem execute_eq_ok : script.execute registry handler start = (.ok count, final) ↔
    count = script.statements.length ∧
      Statement.performAll registry handler script.source script.statements start =
        (.ok (), final) := by
  rw [execute]
  obtain ⟨result, state⟩ :=
    Statement.performAll registry handler script.source script.statements start
  cases result with
  | error error => simp
  | ok => simp [eq_comm]

theorem exists_failsAt (h : script.execute registry handler start = (.error located, final)) :
    ∃ index, script.FailsAt registry handler start index located := by
  obtain ⟨last, hperform⟩ := exists_performAll_error (congrArg Prod.fst h)
  obtain ⟨front, statement, back, middle, error, hstatements, hfront, hinterpret, hlocated⟩ :=
    Statement.performAll_error hperform
  refine ⟨front.length, statement, error, middle, last, ?_, ?_, hinterpret, hlocated⟩
  · simp [hstatements]
  · rw [execute_eq_ok]
    simp [hstatements, hfront]

theorem FailsAt.execute_eq (h : script.FailsAt registry handler start index located) :
    ∃ (statement : Statement) (error : RuntimeError) (middle final : σ),
      execute ⟨script.statements.take index, script.source⟩ registry handler start =
        (.ok index, middle) ∧
      registry.interpret handler statement.nodes middle = (.error error, final) ∧
      script.execute registry handler start = (.error located, final) := by
  obtain ⟨statement, error, middle, final, hindex, hfront, hinterpret, rfl⟩ := h
  refine ⟨statement, error, middle, final, hfront, hinterpret, ?_⟩
  obtain ⟨_, hperform⟩ := execute_eq_ok.mp hfront
  obtain ⟨hlt, hstatement⟩ := List.getElem?_eq_some_iff.mp hindex
  have hsplit : script.statements =
      script.statements.take index ++ statement :: script.statements.drop (index + 1) := by
    rw [← hstatement, ← List.drop_eq_getElem_cons hlt, List.take_append_drop]
  rw [execute, hsplit, Statement.performAll_append hperform]
  simp only [Statement.performAll, hinterpret]

/-- What fails when its handler is followed by another has failed with that handler, too. -/
theorem FailsAt.of_follows {τ : Type} {other : Handler τ} {f : σ → τ}
    (hfollows : other.Follows handler f)
    (h : script.FailsAt registry other (f start) index located) :
    script.FailsAt registry handler start index located := by
  obtain ⟨statement, error, middle, final, hindex, hfront, hinterpret, hlocated⟩ := h
  rw [execute_map hfollows, Prod.ext_iff] at hfront
  obtain ⟨hok, rfl⟩ := hfront
  rw [Prod.map_snd, hfollows.interpret, Prod.ext_iff] at hinterpret
  exact ⟨statement, error, _, _, hindex, Prod.ext hok rfl, Prod.ext hinterpret.1 rfl, hlocated⟩

theorem FailsAt.execute_text (h : script.FailsAt registry .text "" index located) :
    ∃ invocations,
      check ⟨script.statements.take index, script.source⟩ registry = .ok invocations ∧
      script.execute registry .text "" = (.error located, transcript invocations) := by
  obtain ⟨statement, error, middle, final, hfront, hinterpret, hexecute⟩ := h.execute_eq
  obtain ⟨invocations, hcheck, hwritten⟩ := execute_text_of_ok (congrArg Prod.fst hfront)
  have hmiddle := Registry.interpret_error_snd Handler.text_neverFails hinterpret
  rw [hfront] at hwritten
  rw [hexecute, hmiddle]
  exact ⟨invocations, hcheck, congrArg (Prod.mk _) hwritten⟩

/-- A script that is carried out puts out one line for each of its statements, with just the content
of its object, and one that fails puts out the lines of the statements before the one that fails. -/
theorem execute_printsContents {excerpt : Excerpt} (h : excerpt.readScript = .ok script)
    (registry : Registry) :
    let run := script.execute registry .output {}
    (∀ count, run.1 = .ok count → count = script.statements.length ∧
      PrintsContents excerpt script.statements run.2.written) ∧
    (∀ located, run.1 = .error located →
      ∃ index, script.FailsAt registry .output {} index located) ∧
    ∀ index located, script.FailsAt registry .output {} index located →
      run.1 = .error located ∧
        PrintsContents excerpt (script.statements.take index) run.2.written := by
  have hrun : script.execute registry .output {} =
      Prod.map id Handler.outputOf (script.execute registry .text "") :=
    execute_map Handler.output_follows_text script registry ""
  refine ⟨?_, ?_, ?_⟩
  · intro count hcount
    rw [hrun] at hcount ⊢
    obtain ⟨invocations, hcheck, hwritten⟩ := execute_text_of_ok hcount
    have hexecute : script.execute registry .text "" = (.ok count, transcript invocations) :=
      Prod.ext hcount hwritten
    refine ⟨(execute_eq_ok.mp hexecute).1, ?_⟩
    rw [hexecute]
    exact Statement.printsContents h (fun _ hmem => hmem) hcheck
  · intro located hlocated
    exact exists_failsAt (Prod.ext hlocated rfl)
  · intro index located hfails
    obtain ⟨invocations, hcheck, hwritten⟩ :=
      (FailsAt.of_follows Handler.output_follows_text hfails).execute_text
    rw [hrun, hwritten]
    exact ⟨rfl, Statement.printsContents h (fun _ => List.mem_of_mem_take) hcheck⟩

theorem execute_printsContents_yell :
    let excerpt : Excerpt := ⟨"#\no(\"a)\") v(print)\r\nv(print)\nv(yell)".toList, 1, 3⟩
    ∃ script, excerpt.readScript = .ok script ∧
      (script.execute .standard .output {}).1 = .error ⟨.unknownVerb "yell", ⟨32, 39⟩, 1⟩ ∧
      (script.execute .standard .output {}).2.written = Text.utf8 "a)\n\n" ∧
      PrintsContents excerpt (script.statements.take 2) (Text.utf8 "a)\n\n") := by
  intro excerpt
  let script : Script := ⟨[
    ⟨[⟨.directObject "\"a)\"", ⟨5, 12⟩⟩, ⟨.verb "print", ⟨13, 21⟩⟩], ⟨5, 21⟩, 2⟩,
    ⟨[⟨.verb "print", ⟨23, 31⟩⟩], ⟨23, 31⟩, 3⟩,
    ⟨[⟨.verb "yell", ⟨32, 39⟩⟩], ⟨32, 39⟩, 4⟩], 1⟩
  have hread : excerpt.readScript = .ok script := by decide +kernel
  have hfront : execute ⟨script.statements.take 2, 1⟩ .standard .output {} =
      (.ok 2, { written := Text.utf8 "a)\n\n" }) := by decide +kernel
  have hyell : Registry.standard.interpret .output [.verb "yell"]
      { written := Text.utf8 "a)\n\n" } =
        (.error (.unknownVerb "yell"), { written := Text.utf8 "a)\n\n" }) := by decide +kernel
  have hfails : script.FailsAt .standard .output {} 2 ⟨.unknownVerb "yell", ⟨32, 39⟩, 1⟩ :=
    ⟨_, .unknownVerb "yell", _, _, rfl, hfront, hyell, rfl⟩
  have hwritten : (script.execute .standard .output {}).2.written = Text.utf8 "a)\n\n" := by
    decide +kernel
  obtain ⟨herror, hprints⟩ := (execute_printsContents hread .standard).2.2 _ _ hfails
  rw [hwritten] at hprints
  exact ⟨script, hread, herror, hwritten, hprints⟩

end Script

end FreeOrder
