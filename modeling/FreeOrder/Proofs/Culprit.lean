import FreeOrder.Output
import FreeOrder.Proofs.Command
import FreeOrder.Proofs.ScriptExecution
import FreeOrder.Proofs.ScriptReading

namespace FreeOrder

namespace Registry

variable {registry : Registry} {terms : List Term} {error : RuntimeError} {invocation : Invocation}

theorem resolve_error_cases (h : registry.resolve terms = .error error) :
    (∃ role, error = .duplicateRole role ∧ FirstRepeated role terms) ∨
      error = .missingVerb ∨
      ∃ name, error = .unknownVerb name ∧ (terms.map Term.role).Nodup ∧
        textOf? .verb terms = some name ∧ registry.action? name = none := by
  rcases nodup_or_firstRepeated terms with hnodup | ⟨role, hrepeated⟩
  · right
    rw [registry.resolve_of_nodup hnodup] at h
    cases hverb : textOf? .verb terms with
    | none =>
      rw [hverb] at h
      cases h
      exact .inl rfl
    | some name =>
      rw [hverb] at h
      have haction := map_eq_error_iff.mp h
      unfold action at haction
      split at haction
      · cases haction
      · rename_i hnone
        cases haction
        exact .inr ⟨name, rfl, hnodup, rfl, hnone⟩
  · left
    rw [registry.resolve_of_firstRepeated hrepeated] at h
    cases h
    exact ⟨role, rfl, hrepeated⟩

theorem exists_verb_of_resolve_ok (h : registry.resolve terms = .ok invocation) :
    ∃ name, (terms.map Term.role).Nodup ∧ textOf? .verb terms = some name ∧
      registry.action? name = some invocation.action := by
  obtain ⟨action, argument⟩ := invocation
  obtain ⟨name, hasks, haction⟩ := resolve_eq_ok_iff.mp h
  refine ⟨name, ?_, ?_, haction⟩
  · cases hasks <;> simp [Term.role]
  · cases hasks <;> rfl

end Registry

namespace Statement

variable {statement : Statement} {role : Role} {text : String}

def playing (statement : Statement) (role : Role) : List (Located Term) :=
  statement.terms.filter fun term => term.node.role == role

theorem spansOf_eq (statement : Statement) (role : Role) :
    statement.spansOf role = (statement.playing role).map (·.span) := rfl

/-- Where no role comes twice, the first term with a role is the only one. -/
theorem exists_playing_eq_singleton (h : (statement.nodes.map Term.role).Nodup)
    (htext : textOf? role statement.nodes = some text) : ∃ term : Located Term,
      statement.playing role = [term] ∧ term.node.role = role ∧ term.node.text = text := by
  obtain ⟨node, hnode, rfl⟩ := Option.map_eq_some_iff.mp htext
  rw [nodes, List.find?_map] at hnode
  obtain ⟨term, hterm, rfl⟩ := Option.map_eq_some_iff.mp hnode
  have hrole : term.node.role = role := by simpa using List.find?_some hterm
  have hhead : (statement.playing role).head? = some term := by
    rw [playing, List.head?_filter]
    exact hterm
  obtain ⟨rest, hplaying⟩ := List.head?_eq_some_iff.mp hhead
  refine ⟨term, ?_, hrole, rfl⟩
  cases rest with
  | nil => exact hplaying
  | cons other rest =>
    -- With another one, the role would be in the list of roles twice.
    have hother : other ∈ statement.playing role := by simp [hplaying]
    have hrole' : other.node.role = role := by simpa using (List.mem_filter.mp hother).2
    have hsublist : ((statement.playing role).map (·.node.role)).Sublist
        (statement.nodes.map Term.role) := by
      rw [nodes, List.map_map]
      exact List.filter_sublist.map _
    have hnodup := h.sublist hsublist
    simp [hplaying, hrole, hrole'] at hnodup

/-- The sorting of terms by roles stops at the term: until then no role has come twice, and the
role of the term has come before. -/
structure StopsAt (role : Role) (front : List (Located Term)) (term : Located Term) : Prop where
  nodup : ((front.map (·.node)).map Term.role).Nodup
  mem : role ∈ (front.map (·.node)).map Term.role
  role_eq : term.node.role = role
  stops : ∃ roles, Roles.addAll {} (front.map (·.node)) = .ok roles ∧
    roles.add term.node = .error (.duplicateRole role)

theorem exists_stopsAt (h : FirstRepeated role statement.nodes) : ∃ front term back,
    statement.terms = front ++ term :: back ∧ StopsAt role front term := by
  obtain ⟨nodes, node, rest, hnodes, hnodup, hrole, hmem⟩ := h
  obtain ⟨front, others, hterms, rfl, hothers⟩ := List.map_eq_append_iff.mp hnodes
  obtain ⟨term, back, rfl, rfl, _⟩ := List.map_eq_cons_iff.mp hothers
  refine ⟨front, term, back, hterms, hnodup, hmem, hrole, Roles.ofTerms (front.map (·.node)), ?_, ?_⟩
  · exact Roles.addAll_of_nodup hnodup
  · rw [← hrole] at hmem ⊢
    exact Roles.add_ofTerms_of_mem hmem

/-- The term at which the sorting stops is the second one with its role. -/
theorem StopsAt.spansOf {front back : List (Located Term)} {term : Located Term}
    (h : StopsAt role front term) (hterms : statement.terms = front ++ term :: back) :
    (statement.spansOf role)[1]? = some term.span := by
  have hcount : (front.filter fun other => other.node.role == role).length = 1 := by
    rw [← List.countP_eq_length_filter]
    have hone := List.count_eq_one_of_mem h.nodup h.mem
    rw [List.map_map, List.count_eq_countP, List.countP_map] at hone
    exact hone
  rw [spansOf_eq, playing, hterms, List.filter_append, List.filter_cons_of_pos (by simp [h.role_eq]),
    List.map_append, List.getElem?_append_right (by simp [hcount])]
  simp [hcount]

theorem exists_of_mem_spansOf {span : Span} (h : span ∈ statement.spansOf role) :
    ∃ term ∈ statement.terms, term.span = span := by
  obtain ⟨term, hterm, hspan⟩ := List.mem_map.mp h
  exact ⟨term, (List.mem_filter.mp hterm).1, hspan⟩

/-- The place of an error is that of the whole statement, or of one of its terms. -/
theorem culprit_eq_or (statement : Statement) (error : RuntimeError) :
    statement.culprit error = statement.span ∨
      ∃ term ∈ statement.terms, term.span = statement.culprit error := by
  have hfound {found : Option Span} {role : Role}
      (h : ∀ span, found = some span → span ∈ statement.spansOf role) :
      found.getD statement.span = statement.span ∨
        ∃ term ∈ statement.terms, term.span = found.getD statement.span := by
    cases found with
    | none => exact .inl rfl
    | some span => exact .inr (exists_of_mem_spansOf (h span rfl))
  cases error with
  | unknownVerb | unsupportedAction => exact hfound fun span hspan => List.mem_of_head? hspan
  | duplicateRole => exact hfound fun span hspan => List.mem_of_getElem? hspan
  | missingVerb | outputFailed => exact .inl rfl

/-- The term is the only verb of the statement, and its text in the excerpt is a sentence by
itself. -/
structure HasVerb (statement : Statement) (excerpt : Excerpt) (name : String) (span : Span) :
    Prop where
  playing_eq : statement.playing .verb = [⟨.verb name, span⟩]
  spanOf?_eq : statement.spanOf? .verb = some span
  reads : ∃ text, excerpt.Holds span text ∧
    Excerpt.readTerms ⟨text, excerpt.source, span.start⟩ = .ok [⟨.verb name, span⟩]

def Blames (statement : Statement) (excerpt : Excerpt) (registry : Registry) (span : Span) :
    RuntimeError → Prop
  | .unknownVerb name => statement.HasVerb excerpt name span ∧ registry.action? name = none
  | .unsupportedAction action =>
    ∃ name, statement.HasVerb excerpt name span ∧ registry.action? name = some action
  | .duplicateRole role =>
    (statement.spansOf role)[1]? = some span ∧ ∃ front term back,
      statement.terms = front ++ term :: back ∧ term.span = span ∧ StopsAt role front term
  | .missingVerb | .outputFailed _ => span = statement.span

section Read

variable {excerpt : Excerpt} {registry : Registry} {script : Script} {error : RuntimeError}

theorem holds_of_mem_statement (h : excerpt.readScript = .ok script)
    (hmem : statement ∈ script.statements) {term : Located Term}
    (hterm : term ∈ statement.terms) : ∃ word : Word,
      term = word.located term.span.start ∧ excerpt.Holds term.span word.text := by
  obtain ⟨line, hline, hread, _⟩ := Excerpt.exists_line_of_mem h hmem
  obtain ⟨word, he, hholds⟩ := Excerpt.holds_of_mem_terms hread hterm
  exact ⟨word, he, (Excerpt.holds_of_mem_lines hline).trans hholds⟩

theorem exists_hasVerb (h : excerpt.readScript = .ok script) (hmem : statement ∈ script.statements)
    (hnodup : (statement.nodes.map Term.role).Nodup) {name : String}
    (hverb : textOf? .verb statement.nodes = some name) :
    ∃ span, statement.HasVerb excerpt name span := by
  obtain ⟨⟨node, span⟩, hplaying, hrole, htext⟩ := exists_playing_eq_singleton hnodup hverb
  obtain rfl : node = .verb name := by
    cases node with
    | verb _ => rw [← htext]; rfl
    | directObject _ => cases hrole
  have hspanOf : statement.spanOf? .verb = some span := by
    rw [spanOf?, spansOf_eq, hplaying]
    rfl
  have hterm : ⟨.verb name, span⟩ ∈ statement.terms := by
    have hfound : ⟨.verb name, span⟩ ∈ statement.playing .verb := by
      rw [hplaying]
      exact List.mem_cons_self
    exact (List.mem_filter.mp hfound).1
  obtain ⟨word, hword, hholds⟩ := holds_of_mem_statement h hmem hterm
  refine ⟨span, hplaying, hspanOf, word.text, hholds, ?_⟩
  rw [Excerpt.readTerms_word, hword]

theorem HasVerb.getD_spanOf? {name : String} {span : Span}
    (h : statement.HasVerb excerpt name span) :
    (statement.spanOf? .verb).getD statement.span = span := by
  rw [h.spanOf?_eq, Option.getD_some]

theorem blames_of_unresolved (h : excerpt.readScript = .ok script)
    (hmem : statement ∈ script.statements)
    (herror : registry.resolve statement.nodes = .error error) :
    statement.Blames excerpt registry (statement.culprit error) error := by
  rcases Registry.resolve_error_cases herror with
    ⟨role, rfl, hrepeated⟩ | rfl | ⟨name, rfl, hnodup, hverb, haction⟩
  · obtain ⟨front, term, back, hterms, hstops⟩ := exists_stopsAt hrepeated
    have hsecond := hstops.spansOf hterms
    have hculprit : statement.culprit (.duplicateRole role) = term.span := by
      rw [culprit, hsecond]
      rfl
    rw [hculprit]
    exact ⟨hsecond, front, term, back, hterms, rfl, hstops⟩
  · rfl
  · obtain ⟨span, hspan⟩ := exists_hasVerb h hmem hnodup hverb
    have hculprit : statement.culprit (.unknownVerb name) = span := hspan.getD_spanOf?
    rw [hculprit]
    exact ⟨hspan, haction⟩

theorem blames_of_unsupported (h : excerpt.readScript = .ok script)
    (hmem : statement ∈ script.statements) {invocation : Invocation}
    (hresolve : registry.resolve statement.nodes = .ok invocation) :
    statement.Blames excerpt registry (statement.culprit (.unsupportedAction invocation.action))
      (.unsupportedAction invocation.action) := by
  obtain ⟨name, hnodup, hverb, haction⟩ := Registry.exists_verb_of_resolve_ok hresolve
  obtain ⟨span, hspan⟩ := exists_hasVerb h hmem hnodup hverb
  have hculprit : statement.culprit (.unsupportedAction invocation.action) = span :=
    hspan.getD_spanOf?
  rw [hculprit]
  exact ⟨name, hspan, haction⟩

/-- The place of an error is a piece of the line that its statement stands on. -/
theorem holds_culprit (h : excerpt.readScript = .ok script) (hmem : statement ∈ script.statements)
    (error : RuntimeError) : ∃ line part, excerpt.Holds statement.span line ∧
      Excerpt.Holds ⟨line, excerpt.source, statement.span.start⟩ (statement.culprit error) part := by
  obtain ⟨line, hline, hread, hspan⟩ := Excerpt.exists_line_of_mem h hmem
  have hholds := Excerpt.holds_of_mem_lines hline
  rw [hspan]
  rcases culprit_eq_or statement error with he | ⟨term, hterm, he⟩
  · rw [he, hspan]
    exact ⟨line.text, line.text, hholds, Excerpt.holds_self _⟩
  · obtain ⟨word, _, hword⟩ := Excerpt.holds_of_mem_terms hread hterm
    rw [← he]
    exact ⟨line.text, word.text, hholds, hword⟩

end Read

section FirstFailure

variable {registry : Registry} {source : Nat} {statements : List Statement} {located : LocatedError}

theorem resolveAll_error (h : resolveAll registry source statements = .error located) :
    ∃ front statement back found error, statements = front ++ statement :: back ∧
      resolveAll registry source front = .ok found ∧
      registry.resolve statement.nodes = .error error ∧
      located = statement.locate source error := by
  induction statements generalizing located with
  | nil => cases h
  | cons statement statements ih =>
    unfold resolveAll at h
    split at h
    · rename_i error herror
      cases h
      exact ⟨[], statement, statements, [], error, rfl, rfl, herror, rfl⟩
    · rename_i invocation hresolve
      obtain ⟨front, failed, back, found, error, rfl, hfront, herror, rfl⟩ :=
        ih (map_eq_error_iff.mp h)
      refine ⟨statement :: front, failed, back, invocation :: found, error, rfl, ?_, herror, rfl⟩
      simp only [resolveAll, hresolve, hfront]
      rfl

theorem performAll_error {σ : Type} {handler : Handler σ} {state final : σ}
    (h : performAll registry handler source statements state = (.error located, final)) :
    ∃ front statement back middle error, statements = front ++ statement :: back ∧
      performAll registry handler source front state = (.ok (), middle) ∧
      registry.interpret handler statement.nodes middle = (.error error, final) ∧
      located = statement.locate source error := by
  induction statements generalizing state with
  | nil => cases h
  | cons statement statements ih =>
    unfold performAll at h
    split at h
    · rename_i error failed herror
      cases h
      exact ⟨[], statement, statements, state, error, rfl, rfl, herror, rfl⟩
    · rename_i next hok
      obtain ⟨front, failed, back, middle, error, rfl, hfront, herror, rfl⟩ := ih h
      refine ⟨statement :: front, failed, back, middle, error, rfl, ?_, herror, rfl⟩
      simp only [performAll, hok, hfront]

end FirstFailure

end Statement

namespace Handler

variable {σ : Type}

/-- The write can fail, but then only for the output that it writes to. -/
def FailsAsOutput (write : String → σ → Except RuntimeError Unit × σ) : Prop :=
  ∀ line state error, (write line state).1 = .error error → ∃ reason, error = .outputFailed reason

theorem ofWrite_error {write : String → σ → Except RuntimeError Unit × σ}
    (hwrite : FailsAsOutput write) {action : Action} {argument : Option String} {state : σ}
    {error : RuntimeError} (h : (ofWrite write action argument state).1 = .error error) :
    error = .unsupportedAction action ∨ ∃ reason, error = .outputFailed reason := by
  unfold ofWrite at h
  split at h
  · exact .inr (hwrite _ _ _ h)
  · cases h
    exact .inl rfl

theorem failsAsOutput_write (bytes : String → List UInt8) :
    FailsAsOutput fun line => Output.write (bytes line) := by
  intro line output error h
  simp only [Output.write] at h
  split at h
  · cases h
  · dsimp only at h
    split at h
    · cases h
    · cases h
      exact ⟨_, rfl⟩

end Handler

/-- The error has the source of the excerpt, a piece of the line that the statement stands on, and
there it is at what it is about. -/
structure Excerpt.Locates (excerpt : Excerpt) (registry : Registry) (statement : Statement)
    (located : LocatedError) : Prop where
  source_eq : located.source = excerpt.source
  inside : ∃ line part, excerpt.Holds statement.span line ∧
    Holds ⟨line, excerpt.source, statement.span.start⟩ located.span part
  blames : statement.Blames excerpt registry located.span located.error

namespace Script

variable {excerpt : Excerpt} {script : Script} {registry : Registry} {statement : Statement}
  {error : RuntimeError} {located : LocatedError} {σ : Type} {state : σ}

theorem source_eq (h : excerpt.readScript = .ok script) : script.source = excerpt.source := by
  obtain ⟨statements, _, rfl⟩ := map_eq_ok_iff.mp h
  rfl

theorem locates (h : excerpt.readScript = .ok script) (hmem : statement ∈ script.statements)
    (hblames : statement.Blames excerpt registry (statement.culprit error) error) :
    excerpt.Locates registry statement (statement.locate script.source error) :=
  ⟨source_eq h, Statement.holds_culprit h hmem error, hblames⟩

theorem blames_of_refused {write : String → σ → Except RuntimeError Unit × σ}
    (hwrite : Handler.FailsAsOutput write) (h : excerpt.readScript = .ok script)
    (hmem : statement ∈ script.statements)
    (herror : (registry.interpret (.ofWrite write) statement.nodes state).1 = .error error) :
    statement.Blames excerpt registry (statement.culprit error) error := by
  unfold Registry.interpret at herror
  split at herror
  · rename_i found hresolve
    cases herror
    exact Statement.blames_of_unresolved h hmem hresolve
  · rename_i invocation hresolve
    rcases Handler.ofWrite_error hwrite herror with rfl | ⟨reason, rfl⟩
    · exact Statement.blames_of_unsupported h hmem hresolve
    · rfl

theorem exists_performAll_error {handler : Handler σ}
    (h : (script.execute registry handler state).1 = .error located) : ∃ final,
      Statement.performAll registry handler script.source script.statements state =
        (.error located, final) := by
  unfold execute at h
  split at h
  · rename_i final hperform
    cases h
    exact ⟨final, hperform⟩
  · cases h

/-- An error that stops a script is located at what it is about, in the first statement that fails.
All statements before that one resolve or are performed. -/
theorem error_located (h : excerpt.readScript = .ok script) (registry : Registry) :
    (∀ located, script.check registry = .error located →
      ∃ front statement back found, script.statements = front ++ statement :: back ∧
        check ⟨front, script.source⟩ registry = .ok found ∧
        registry.resolve statement.nodes = .error located.error ∧
        excerpt.Locates registry statement located) ∧
    ∀ (σ : Type) (write : String → σ → Except RuntimeError Unit × σ),
      Handler.FailsAsOutput write → ∀ state located,
        (script.execute registry (.ofWrite write) state).1 = .error located →
        ∃ front statement back middle, script.statements = front ++ statement :: back ∧
          execute ⟨front, script.source⟩ registry (.ofWrite write) state =
            (.ok front.length, middle) ∧
          (registry.interpret (.ofWrite write) statement.nodes middle).1 = .error located.error ∧
          excerpt.Locates registry statement located := by
  apply And.intro
  · intro located hcheck
    obtain ⟨front, statement, back, found, error, hstatements, hfront, herror, rfl⟩ :=
      Statement.resolveAll_error hcheck
    have hmem : statement ∈ script.statements := by simp [hstatements]
    refine ⟨front, statement, back, found, hstatements, hfront, herror, ?_⟩
    exact locates h hmem (Statement.blames_of_unresolved h hmem herror)
  · intro σ write hwrite state located hexecute
    obtain ⟨final, hperform⟩ := exists_performAll_error hexecute
    obtain ⟨front, statement, back, middle, error, hstatements, hfront, hinterpret, rfl⟩ :=
      Statement.performAll_error hperform
    have hmem : statement ∈ script.statements := by simp [hstatements]
    have herror : (registry.interpret (.ofWrite write) statement.nodes middle).1 = .error error := by
      rw [hinterpret]
    refine ⟨front, statement, back, middle, hstatements, ?_, herror, ?_⟩
    · simp only [execute, hfront]
    · exact locates h hmem (blames_of_refused hwrite h hmem herror)

theorem error_located_print_yell :
    let excerpt : Excerpt := ⟨"v(print) o(\"ab\")\nv(yell)".toList, 4, 10⟩
    (∃ statement, excerpt.Locates .standard statement ⟨.unknownVerb "yell", ⟨27, 34⟩, 4⟩) ∧
      ∃ statement, excerpt.Locates .standard statement ⟨.outputFailed "disk full", ⟨10, 26⟩, 4⟩ := by
  intro excerpt
  let script : Script := ⟨[
    ⟨[⟨.verb "print", ⟨10, 18⟩⟩, ⟨.directObject "\"ab\"", ⟨19, 26⟩⟩], ⟨10, 26⟩, 1⟩,
    ⟨[⟨.verb "yell", ⟨27, 34⟩⟩], ⟨27, 34⟩, 2⟩], 4⟩
  have hread : excerpt.readScript = .ok script := by decide +kernel
  have hcheck : script.check .standard = .error ⟨.unknownVerb "yell", ⟨27, 34⟩, 4⟩ := by
    decide +kernel
  have hexecute : (script.execute .standard .output ⟨[], some 2, .error "disk full"⟩).1 =
      .error ⟨.outputFailed "disk full", ⟨10, 26⟩, 4⟩ := by decide +kernel
  obtain ⟨hunresolved, hrefused⟩ := error_located hread .standard
  obtain ⟨_, yell, _, _, _, _, _, hyell⟩ := hunresolved _ hcheck
  obtain ⟨_, print, _, _, _, _, _, hprint⟩ :=
    hrefused Output _ (Handler.failsAsOutput_write _) _ _ hexecute
  exact ⟨⟨yell, hyell⟩, ⟨print, hprint⟩⟩

end Script

end FreeOrder
