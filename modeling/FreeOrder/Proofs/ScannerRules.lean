import FreeOrder.Proofs.SentenceReading
import FreeOrder.Sentence.Scanner

namespace FreeOrder

namespace Text

variable {front part back : List Char}

theorem between_append (front part back : List Char) :
    between (byteLength front) (byteLength front + byteLength part) (front ++ (part ++ back)) =
      part := by
  rw [between, takeBytes_byteLength, ← byteLength_append, ← List.append_assoc,
    takeBytes_byteLength, List.drop_left]

theorem find?_eq_none {p : Char → Bool} {text : List Char}
    (h : text.dropWhile (fun c => !p c) = []) : find? p text = none := by
  rw [find?, h]

theorem find?_eq_some {p : Char → Bool} {text rest : List Char} {c : Char}
    (h : text.dropWhile (fun c => !p c) = c :: rest) :
    find? p text = some (byteLength (text.takeWhile fun c => !p c)) := by
  rw [find?, h]

theorem byteLength_lt_append_iff : byteLength front < byteLength (front ++ back) ↔ back ≠ [] := by
  cases back with
  | nil => simp
  | cons c back =>
    have hpos := c.utf8Size_pos
    simp only [byteLength_append, byteLength_cons]
    apply iff_of_true
    · omega
    · exact List.cons_ne_nil c back

end Text

def SyntaxError.located (error : SyntaxError) : Located SyntaxError :=
  ⟨error, error.span⟩

/-- The error for a fault in a fragment of the excerpt that comes after the given text. -/
def Excerpt.errorAfter (excerpt : Excerpt) (before : List Char) (fault : SyntaxFault)
    (fragment : List Char) : SyntaxError :=
  ⟨fault, String.ofList fragment, excerpt.offset + Text.byteLength before, excerpt.source⟩

namespace Scanner

variable {α β : Type} {scanner scanner' : Scanner} {scan : Scan α} {next : α → Scan β} {value : α}
  {halt : Halt}

theorem run_bind_ok (h : scanner.run scan = some (.ok value, scanner')) :
    scanner.run (scan >>= next) = scanner'.run (next value) := by
  unfold run at h ⊢
  rw [ExceptT.run_bind, StateT.run_bind, h]
  rfl

theorem run_bind_error (h : scanner.run scan = some (.error halt, scanner')) :
    scanner.run (scan >>= next) = some (.error halt, scanner') := by
  unfold run at h ⊢
  rw [ExceptT.run_bind, StateT.run_bind, h]
  rfl

end Scanner

namespace Scan

open Scanner (Event Halt)

/-- What a scan comes to: a value and the text up to where it ends, an error, or something unsafe
that stops it. -/
inductive Outcome (α : Type)
  | ok (reached : α × List Char)
  | error (error : SyntaxError)
  | trap

namespace Outcome

variable {α : Type} {p q : Prop} [Decidable p] [Decidable q] {outcome : Outcome α}

def given (p : Prop) [Decidable p] (outcome : Outcome α) : Outcome α :=
  if p then outcome else trap

theorem given_of (h : p) : given p outcome = outcome :=
  if_pos h

theorem given_of_not (h : ¬ p) : given p outcome = trap :=
  if_neg h

theorem given_given : given p (given q outcome) = given (p ∧ q) outcome := by
  by_cases hp : p
  · rw [given_of hp]
    simp only [given, hp, true_and]
  · rw [given_of_not hp, given_of_not fun h => hp h.1]

theorem given_congr (h : p ↔ q) : given p outcome = given q outcome := by
  simp only [given, h]

/-- The position at which an error ends is added up before the error is reported. -/
def ofError (error : SyntaxError) : Outcome α :=
  (Outcome.error error).given (error.span.stop < UInt64.size)

/-- A position that an error does not begin before fits wherever the error does. -/
theorem given_ofError {error : SyntaxError} {position : Nat} (h : position ≤ error.start) :
    (ofError error : Outcome α).given (position < UInt64.size) = ofError error := by
  rw [ofError, given_given]
  apply given_congr
  rw [and_iff_right_iff_imp, SyntaxError.span, Span.ofText]
  dsimp only
  omega

theorem given_eq_ok_iff {reached : α × List Char} :
    given p outcome = .ok reached ↔ p ∧ outcome = .ok reached := by
  by_cases hp : p
  · rw [given_of hp, and_iff_right hp]
  · rw [given_of_not hp]
    exact iff_of_false (fun h => nomatch h) fun h => hp h.1

theorem ofError_ne_ok {error : SyntaxError} {reached : α × List Char} :
    ofError error ≠ .ok reached := by
  rw [ofError, Ne, given_eq_ok_iff]
  exact fun h => nomatch h.2

end Outcome

variable {α β : Type} {excerpt : Excerpt} {front front' back before part after : List Char}
  {scan : Scan α} {next : α → Scan β} {value : α} {error : SyntaxError}
  {p : Char → Bool} {c : Char} {start stop : Nat} {events : List Event}

/-- A run that has the outcome. What it does is added to the events, and it is safe up to what
stops the run. -/
inductive Ends (excerpt : Excerpt) (events : List Event) :
    Outcome α → Option (Except Halt α × Scanner) → Prop
  | ok {value : α} {front : List Char} {more : List Event}
      (hsafe : ∀ event ∈ more, event.IsSafe excerpt.text) :
      Ends excerpt events (.ok (value, front))
        (some (.ok value, ⟨excerpt, Text.byteLength front, events ++ more⟩))
  | error {error : SyntaxError} {position : Nat} {more : List Event}
      (hsafe : ∀ event ∈ more, event.IsSafe excerpt.text) :
      Ends excerpt events (.error error)
        (some (.error (.fault error.located), ⟨excerpt, position, events ++ more⟩))
  | trap {event : Event} {scanner : Scanner} (hstops : ¬ event.IsSafe excerpt.text) :
      Ends excerpt events .trap (some (.error (.trap event), scanner))

/-- Begun behind the text, the scan has the outcome. -/
def Does (excerpt : Excerpt) (front : List Char) (scan : Scan α) (outcome : Outcome α) : Prop :=
  ∀ events, Ends excerpt events outcome
    (Scanner.run ⟨excerpt, Text.byteLength front, events⟩ scan)

/-- A scan has one outcome only. -/
theorem Does.outcome_eq {outcome : Outcome α} {scanner : Scanner}
    (h : Does excerpt front scan outcome)
    (hrun : Scanner.run ⟨excerpt, Text.byteLength front, events⟩ scan =
      some (.ok value, scanner)) :
    ∃ front', outcome = .ok (value, front') ∧ scanner.position = Text.byteLength front' := by
  have hends := h events
  rw [hrun] at hends
  cases hends with
  | @ok _ front' _ _ => exact ⟨front', rfl, rfl⟩

/-- A scan that moves to the end of a text, and does nothing else. -/
theorem does_of_run (h : ∀ events,
    Scanner.run ⟨excerpt, Text.byteLength front, events⟩ scan =
      some (.ok value, ⟨excerpt, Text.byteLength front', events⟩)) :
    Does excerpt front scan (.ok (value, front')) := by
  intro events
  have hends : Ends excerpt events (.ok (value, front')) (some (.ok value, ⟨_, _, events ++ []⟩)) :=
    .ok (List.forall_mem_nil _)
  rw [List.append_nil] at hends
  rw [h]
  exact hends

theorem does_pure (value : α) : Does excerpt front (pure value) (.ok (value, front)) :=
  does_of_run fun _ => rfl

section Bind

variable {outcome : Outcome β}

/-- What is done after something safe may be counted to it. -/
theorem Ends.of_append {more : List Event} {result : Option (Except Halt β × Scanner)}
    (hsafe : ∀ event ∈ more, event.IsSafe excerpt.text)
    (h : Ends excerpt (events ++ more) outcome result) : Ends excerpt events outcome result := by
  cases h with
  | ok hmore =>
    rw [List.append_assoc]
    exact .ok (List.forall_mem_append.mpr ⟨hsafe, hmore⟩)
  | error hmore =>
    rw [List.append_assoc]
    exact .error (List.forall_mem_append.mpr ⟨hsafe, hmore⟩)
  | trap hstops => exact .trap hstops

theorem Does.bind (h : Does excerpt front scan (.ok (value, front')))
    (hnext : Does excerpt front' (next value) outcome) :
    Does excerpt front (scan >>= next) outcome := by
  intro events
  have hends := h events
  generalize hrun : Scanner.run _ scan = result at hends
  cases hends with
  | ok hsafe =>
    rw [Scanner.run_bind_ok hrun]
    exact (hnext _).of_append hsafe

theorem Does.bind_error (h : Does excerpt front scan (.error error)) :
    Does excerpt front (scan >>= next) (.error error) := by
  intro events
  have hends := h events
  generalize hrun : Scanner.run _ scan = result at hends
  cases hends with
  | error hsafe =>
    rw [Scanner.run_bind_error hrun]
    exact .error hsafe

theorem Does.bind_trap (h : Does excerpt front scan .trap) :
    Does excerpt front (scan >>= next) .trap := by
  intro events
  have hends := h events
  generalize hrun : Scanner.run _ scan = result at hends
  cases hends with
  | trap hstops =>
    rw [Scanner.run_bind_error hrun]
    exact .trap hstops

theorem Does.bind_given {p : Prop} [Decidable p]
    (h : Does excerpt front scan (.given p (.ok (value, front'))))
    (hnext : Does excerpt front' (next value) outcome) :
    Does excerpt front (scan >>= next) (outcome.given p) := by
  by_cases hp : p
  · rw [Outcome.given_of hp] at h ⊢
    exact h.bind hnext
  · rw [Outcome.given_of_not hp] at h ⊢
    exact h.bind_trap

theorem Does.bind_ofError (h : Does excerpt front scan (.ofError error)) :
    Does excerpt front (scan >>= next) (.ofError error) := by
  by_cases hstop : error.span.stop < UInt64.size
  · rw [Outcome.ofError, Outcome.given_of hstop] at h ⊢
    exact h.bind_error
  · rw [Outcome.ofError, Outcome.given_of_not hstop] at h ⊢
    exact h.bind_trap

section Loop

variable [Nonempty β] {step : α → Scan (α ⊕ β)} {state state' : α} {result : β}

/-- A loop does one turn, and then the rest of itself. -/
theorem Does.loop
    (h : Does excerpt front (do
      match ← step state with
      | .inl state => repeatM step state
      | .inr result => pure result) outcome) :
    Does excerpt front (repeatM step state) outcome := by
  rw [repeatM_eq_of_monadTail]
  exact h

theorem Does.loop_next (h : Does excerpt front (step state) (.ok (.inl state', front')))
    (hrest : Does excerpt front' (repeatM step state') outcome) :
    Does excerpt front (repeatM step state) outcome :=
  Does.loop (h.bind hrest)

theorem Does.loop_last (h : Does excerpt front (step state) (.ok (.inr result, front'))) :
    Does excerpt front (repeatM step state) (.ok (result, front')) :=
  Does.loop (h.bind (does_pure result))

end Loop

end Bind

theorem does_throw (error : SyntaxError) :
    Does excerpt front (throw (.fault error.located) : Scan α) (.error error) := by
  intro events
  have hends : Ends excerpt events (.error error : Outcome α)
      (some (.error (.fault error.located), ⟨excerpt, Text.byteLength front, events ++ []⟩)) :=
    .error (List.forall_mem_nil _)
  rw [List.append_nil] at hends
  exact hends

theorem does_excerpt : Does excerpt front Scan.excerpt (.ok (excerpt, front)) :=
  does_of_run fun _ => rfl

theorem does_textEnd : Does excerpt front textEnd (.ok (Text.byteLength excerpt.text, front)) :=
  does_of_run fun _ => rfl

theorem does_position : Does excerpt front position (.ok (Text.byteLength front, front)) :=
  does_of_run fun _ => rfl

theorem does_atEnd :
    Does excerpt front atEnd
      (.ok (Text.byteLength excerpt.text ≤ Text.byteLength front, front)) :=
  does_of_run fun _ => rfl

theorem does_atEnd_of_cons (h : excerpt.text = front ++ c :: back) :
    Does excerpt front atEnd (.ok (false, front)) := by
  have hlt : Text.byteLength front < Text.byteLength excerpt.text := by
    rw [h]
    exact Text.byteLength_lt_append_iff.mpr (List.cons_ne_nil c back)
  rw [← decide_eq_false (Nat.not_le_of_lt hlt)]
  exact does_atEnd

theorem does_perform (event : Event) :
    Does excerpt front (perform event) (.given (event.IsSafe excerpt.text) (.ok ((), front))) := by
  intro events
  change Ends _ _ _ (Scanner.run ⟨excerpt, Text.byteLength front, events ++ [event]⟩
    (if event.IsSafe excerpt.text then pure () else throw (.trap event) : Scan Unit))
  by_cases hsafe : event.IsSafe excerpt.text
  · rw [Outcome.given_of hsafe, if_pos hsafe]
    exact .ok (List.forall_mem_singleton.mpr hsafe)
  · rw [Outcome.given_of_not hsafe, if_neg hsafe]
    exact .trap hsafe

theorem does_perform_safe {event : Event} (h : event.IsSafe excerpt.text) :
    Does excerpt front (perform event) (.ok ((), front)) := by
  have hperform : Does excerpt front _ _ := does_perform event
  rw [Outcome.given_of h] at hperform
  exact hperform

theorem does_moveTo (h : excerpt.text = front' ++ back) :
    Does excerpt front (moveTo (Text.byteLength front')) (.ok ((), front')) := by
  have hsafe : Event.IsSafe excerpt.text (.stand (Text.byteLength front')) := by
    rw [h]
    exact ⟨by simp, front', back, rfl, rfl⟩
  exact fun events => does_perform_safe hsafe events

theorem does_add (left right : Nat) :
    Does excerpt front (add left right)
      (.given (left + right < UInt64.size) (.ok (left + right, front))) :=
  (does_perform (.add left right)).bind_given (does_pure _)

theorem does_add_safe (h : start + stop < UInt64.size) :
    Does excerpt front (add start stop) (.ok (start + stop, front)) := by
  have hadd : Does excerpt front _ _ := does_add start stop
  rw [Outcome.given_of h] at hadd
  exact hadd

theorem does_cut (h : excerpt.text = before ++ (part ++ after))
    (hstop : stop = Text.byteLength before + Text.byteLength part) :
    Does excerpt front (cut (Text.byteLength before) stop) (.ok (part, front)) := by
  subst hstop
  have hsafe : Event.IsSafe excerpt.text
      (.cut (Text.byteLength before) (Text.byteLength before + Text.byteLength part)) := by
    rw [h]
    refine ⟨Nat.le_add_right _ _, ?_, ⟨before, part ++ after, rfl, rfl⟩,
      ⟨before ++ part, after, ?_, ?_⟩⟩
    · simp only [Text.byteLength_append]
      omega
    · rw [List.append_assoc]
    · rw [Text.byteLength_append]
  refine (does_perform_safe hsafe).bind (does_excerpt.bind ?_)
  rw [h, Text.between_append]
  exact does_pure part

/-- The text that is scanned lies behind the text that has been scanned. -/
theorem does_cut_rest (h : excerpt.text = before ++ back) :
    Does excerpt front (cut (Text.byteLength before) (Text.byteLength excerpt.text))
      (.ok (back, front)) := by
  have hsplit : excerpt.text = before ++ (back ++ []) := by rw [List.append_nil, h]
  apply does_cut hsplit
  rw [h, Text.byteLength_append]

theorem does_rest (h : excerpt.text = front ++ back) :
    Does excerpt front rest (.ok (back, front)) :=
  does_position.bind (does_textEnd.bind (does_cut_rest h))

theorem does_peek (h : excerpt.text = front ++ back) :
    Does excerpt front peek (.ok (back.head?, front)) :=
  (does_rest h).bind (does_pure _)

section Bounded

/- No text takes up more bytes than can be counted. -/
variable (hbytes : Text.byteLength excerpt.text < UInt64.size)
include hbytes

theorem does_add_byteLength (h : excerpt.text = before ++ (part ++ after)) :
    Does excerpt front (add (Text.byteLength before) (Text.byteLength part))
      (.ok (Text.byteLength before + Text.byteLength part, front)) := by
  apply does_add_safe
  rw [h] at hbytes
  simp only [Text.byteLength_append] at hbytes
  omega

theorem does_addByte (h : excerpt.text = before ++ c :: after) (hc : c.utf8Size = 1) :
    Does excerpt front (add (Text.byteLength before) 1)
      (.ok (Text.byteLength before + 1, front)) := by
  apply does_add_safe
  rw [h] at hbytes
  simp only [Text.byteLength_append, Text.byteLength_cons, hc] at hbytes
  omega

theorem does_moveBehind (h : excerpt.text = front ++ (part ++ c :: back)) (hc : c.utf8Size = 1) :
    Does excerpt front (moveBehind (Text.byteLength part)) (.ok ((), front ++ (part ++ [c]))) := by
  have hmoved : excerpt.text = front ++ (part ++ [c]) ++ back := by simpa using h
  have hsum : Text.byteLength front + (Text.byteLength part + 1) =
      Text.byteLength (front ++ (part ++ [c])) := by
    simp only [Text.byteLength_append, Text.byteLength_cons, Text.byteLength_nil, hc]
  have hle := congrArg Text.byteLength hmoved
  rw [Text.byteLength_append, ← hsum] at hle
  refine does_position.bind ((does_add_safe (by omega)).bind ((does_add_safe (by omega)).bind ?_))
  rw [hsum]
  exact does_moveTo hmoved

theorem does_advance (h : excerpt.text = front ++ c :: back) :
    Does excerpt front advance (.ok (some c, front ++ [c])) := by
  have hwidth : Text.byteLength [c] = c.utf8Size := by simp
  have hsplit : excerpt.text = front ++ ([c] ++ back) := by rw [List.singleton_append, h]
  have hadd : Does excerpt front _ _ := does_add_byteLength hbytes hsplit
  have hmove : Does excerpt front _ _ := does_moveTo (hsplit.trans (List.append_assoc _ _ _).symm)
  rw [hwidth] at hadd
  rw [Text.byteLength_append, hwidth] at hmove
  exact (does_peek h).bind (does_position.bind (hadd.bind (hmove.bind (does_pure _))))

theorem does_advanceWhile (h : excerpt.text = front ++ back) :
    Does excerpt front (advanceWhile p) (.ok ((), front ++ back.takeWhile p)) := by
  induction back generalizing front with
  | nil =>
    rw [List.takeWhile_nil, List.append_nil]
    refine Does.loop_last ((does_peek h).bind ?_)
    rw [List.head?_nil, Option.any_none, if_neg Bool.false_ne_true]
    exact does_pure _
  | cons c back ih =>
    rw [List.takeWhile_cons]
    cases hp : p c with
    | true =>
      have hnext : excerpt.text = front ++ [c] ++ back := by simpa using h
      have hrest := ih hnext
      rw [List.append_assoc, List.singleton_append] at hrest
      refine Does.loop_next ((does_peek h).bind ?_) hrest
      rw [List.head?_cons, Option.any_some, if_pos hp]
      exact (does_advance hbytes h).bind (does_pure _)
    | false =>
      rw [if_neg Bool.false_ne_true, List.append_nil]
      refine Does.loop_last ((does_peek h).bind ?_)
      rw [List.head?_cons, Option.any_some, hp, if_neg Bool.false_ne_true]
      exact does_pure _

theorem does_takeWhile (h : excerpt.text = front ++ back) :
    Does excerpt front (takeWhile p) (.ok (back.takeWhile p, front ++ back.takeWhile p)) := by
  have hsplit : excerpt.text = front ++ (back.takeWhile p ++ back.dropWhile p) := by
    rw [List.takeWhile_append_dropWhile, h]
  refine does_position.bind ((does_advanceWhile hbytes h).bind (does_position.bind ?_))
  exact does_cut hsplit (Text.byteLength_append _ _)

theorem does_skipBlanks (h : excerpt.text = front ++ back) :
    Does excerpt front skipBlanks
      (.ok (!(back.takeWhile isBlank).isEmpty, front ++ back.takeWhile isBlank)) := by
  have hmoved : decide (Text.byteLength front < Text.byteLength (front ++ back.takeWhile isBlank)) =
      !(back.takeWhile isBlank).isEmpty := by
    rw [Bool.eq_iff_iff, decide_eq_true_iff, Text.byteLength_lt_append_iff]
    cases back.takeWhile isBlank <;> simp
  rw [← hmoved]
  exact does_position.bind ((does_advanceWhile hbytes h).bind (does_position.bind (does_pure _)))

theorem does_chunkEnd (h : excerpt.text = before ++ back) :
    Does excerpt front (chunkEnd (Text.byteLength before))
      (.ok (Text.byteLength before + Text.byteLength (Term.chunk back), front)) := by
  have hsplit : Term.chunk back ++ back.dropWhile (fun c => !isBlank c) = back :=
    List.takeWhile_append_dropWhile
  refine does_textEnd.bind ((does_cut_rest h).bind ?_)
  cases hrest : back.dropWhile fun c => !isBlank c with
  | nil =>
    rw [hrest, List.append_nil] at hsplit
    rw [Text.find?_eq_none hrest, hsplit, ← Text.byteLength_append, ← h]
    exact does_textEnd
  | cons c more =>
    rw [Text.find?_eq_some hrest]
    have hchunk : excerpt.text = before ++ (Term.chunk back ++ c :: more) := by
      rw [← hrest, hsplit, h]
    exact does_add_byteLength hbytes hchunk

end Bounded

/-- The place in the source is found if the position where it ends can be added up. -/
theorem does_span (before part : List Char) :
    Does excerpt front
      (span (Text.byteLength before) (Text.byteLength before + Text.byteLength part))
      (.given ((Span.ofText (excerpt.offset + Text.byteLength before) part).stop < UInt64.size)
        (.ok (.ofText (excerpt.offset + Text.byteLength before) part, front))) := by
  have hspan : Span.ofText (excerpt.offset + Text.byteLength before) part =
      ⟨Text.byteLength before + excerpt.offset,
        Text.byteLength before + Text.byteLength part + excerpt.offset⟩ := by
    rw [Span.ofText]
    congr 1 <;> omega
  have hscan : Does excerpt front
      (span (Text.byteLength before) (Text.byteLength before + Text.byteLength part)) _ :=
    does_excerpt.bind ((does_add _ _).bind_given ((does_add _ _).bind_given (does_pure _)))
  rw [Outcome.given_given] at hscan
  rw [hspan]
  convert hscan using 1
  apply Outcome.given_congr
  dsimp only
  omega

/-- A report quotes the text at fault, and says where that lies in the source. -/
theorem does_report (fault : SyntaxFault) (h : excerpt.text = before ++ (part ++ after))
    (hstop : stop = Text.byteLength before + Text.byteLength part) :
    Does excerpt front (report fault (Text.byteLength before) stop : Scan α)
      (.ofError (excerpt.errorAfter before fault part)) := by
  subst hstop
  have hspan : (excerpt.errorAfter before fault part).span =
      .ofText (excerpt.offset + Text.byteLength before) part := by
    rw [Excerpt.errorAfter, SyntaxError.span, String.toList_ofList]
  rw [Outcome.ofError, hspan]
  refine (does_cut h rfl).bind ((does_span before part).bind_given (does_excerpt.bind ?_))
  have hthrow : Does excerpt front (throw (.fault (SyntaxError.located _)) : Scan α) _ :=
    does_throw (excerpt.errorAfter before fault part)
  rw [SyntaxError.located, hspan] at hthrow
  exact hthrow

theorem does_report_chunk (hbytes : Text.byteLength excerpt.text < UInt64.size)
    (fault : SyntaxFault) (h : excerpt.text = before ++ back) :
    Does excerpt front
      (chunkEnd (Text.byteLength before) >>= report fault (Text.byteLength before) : Scan α)
      (.ofError (excerpt.errorAfter before fault (Term.chunk back))) := by
  have hsplit : excerpt.text =
      before ++ (Term.chunk back ++ back.dropWhile fun c => !isBlank c) := by
    rw [Term.chunk, List.takeWhile_append_dropWhile, h]
  exact (does_chunkEnd hbytes h).bind (does_report fault hsplit rfl)

end Scan

end FreeOrder
