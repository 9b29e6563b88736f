import FreeOrder.Sentence.Reading

namespace FreeOrder

namespace Text

/-- After so many bytes a character of the text begins, or the text ends. -/
def IsBoundary (text : List Char) (position : Nat) : Prop :=
  ∃ front back, text = front ++ back ∧ position = byteLength front

theorem isBoundary_iff_takeBytes {text : List Char} {position : Nat} :
    IsBoundary text position ↔ byteLength (takeBytes position text) = position := by
  apply Iff.intro
  · rintro ⟨front, back, rfl, rfl⟩
    rw [takeBytes_byteLength]
  · intro h
    obtain ⟨back, hback⟩ := takeBytes_isPrefix position text
    exact ⟨takeBytes position text, back, hback.symm, h.symm⟩

instance (text : List Char) (position : Nat) : Decidable (IsBoundary text position) :=
  decidable_of_iff _ isBoundary_iff_takeBytes.symm

/-- The characters from one position to another. -/
def between (start stop : Nat) (text : List Char) : List Char :=
  (takeBytes stop text).drop (takeBytes start text).length

/-- The position of the first character that has the property. -/
def find? (p : Char → Bool) (text : List Char) : Option Nat :=
  match text.dropWhile fun c => !p c with
  | [] => none
  | _ :: _ => some (byteLength (text.takeWhile fun c => !p c))

end Text

namespace Scanner

/-- What a scanner does that can go wrong. It stands at a position, cuts a piece out of the text,
and adds numbers. -/
inductive Event
  | stand (position : Nat)
  | cut (start stop : Nat)
  | add (left right : Nat)
deriving DecidableEq, Repr

/-- It stands and cuts between characters of the text, and its sums fit into 64 bits. -/
def Event.IsSafe (text : List Char) : Event → Prop
  | stand position => position ≤ Text.byteLength text ∧ Text.IsBoundary text position
  | cut start stop => start ≤ stop ∧ stop ≤ Text.byteLength text ∧
      Text.IsBoundary text start ∧ Text.IsBoundary text stop
  | add left right => left + right < UInt64.size

instance (text : List Char) : (event : Event) → Decidable (event.IsSafe text)
  | .stand _ => inferInstanceAs (Decidable (_ ∧ _))
  | .cut _ _ => inferInstanceAs (Decidable (_ ∧ _ ∧ _ ∧ _))
  | .add _ _ => inferInstanceAs (Decidable (_ < _))

end Scanner

/-- A cursor over an excerpt, with all that has been done so far. -/
structure Scanner where
  excerpt : Excerpt
  position : Nat := 0
  events : List Scanner.Event := []

instance : Nonempty Scanner :=
  ⟨⟨⟨[], 0, 0⟩, 0, []⟩⟩

/-- Why a scan comes to nothing: an error is found in the text, or something unsafe was done. -/
inductive Scanner.Halt
  | fault (error : Located SyntaxError)
  | trap (event : Event)

/-- A part of a scan. Nothing but their equation is known of its loops, so that only a loop that
ends can be shown to come to something. -/
abbrev Scan := ExceptT Scanner.Halt (StateT Scanner Option)

namespace Scan

open Term (isMarkerChar isNameChar)

/-- Notes down what is done, and goes on only if that is safe. -/
def perform (event : Scanner.Event) : Scan Unit := do
  modify fun scanner => { scanner with events := scanner.events ++ [event] }
  if event.IsSafe (← get).excerpt.text then return () else throw (.trap event)

def excerpt : Scan Excerpt :=
  return (← get).excerpt

def textEnd : Scan Nat :=
  return Text.byteLength (← excerpt).text

def position : Scan Nat :=
  return (← get).position

def moveTo (position : Nat) : Scan Unit := do
  modify fun scanner => { scanner with position }
  perform (.stand position)

def add (left right : Nat) : Scan Nat := do
  perform (.add left right)
  return left + right

def cut (start stop : Nat) : Scan (List Char) := do
  perform (.cut start stop)
  return Text.between start stop (← excerpt).text

/-- The text that is still to be scanned. -/
def rest : Scan (List Char) := do
  cut (← position) (← textEnd)

def peek : Scan (Option Char) :=
  return (← rest).head?

def atEnd : Scan Bool :=
  return (← textEnd) ≤ (← position)

/-- Moves past the next character, if there is one. -/
def advance : Scan (Option Char) := do
  match ← peek with
  | none => return none
  | some c =>
    moveTo (← add (← position) c.utf8Size)
    return some c

/-- Moves behind the byte at the distance. -/
def moveBehind (distance : Nat) : Scan Unit := do
  moveTo (← add (← position) (← add distance 1))

/-- Moves on while the next character has the property. -/
def advanceWhile (p : Char → Bool) : Scan Unit :=
  repeatM (fun _ => do
    if (← peek).any p then
      let _ ← advance
      return .inl ()
    else return .inr ()) ()

def takeWhile (p : Char → Bool) : Scan (List Char) := do
  let start ← position
  advanceWhile p
  cut start (← position)

/-- Moves past blanks, and tells whether there were any. -/
def skipBlanks : Scan Bool := do
  let start ← position
  advanceWhile isBlank
  return start < (← position)

/-- The position of the first blank from the start on. -/
def chunkEnd (start : Nat) : Scan Nat := do
  match Text.find? isBlank (← cut start (← textEnd)) with
  | none => textEnd
  | some distance => add start distance

/-- Where a range of the excerpt lies in the source. -/
def span (start stop : Nat) : Scan Span := do
  let offset := (← excerpt).offset
  return ⟨← add start offset, ← add stop offset⟩

/-- Reports a fault in the text from one position to another. -/
def report {α : Type} (fault : SyntaxFault) (start stop : Nat) : Scan α := do
  let fragment ← cut start stop
  let span ← span start stop
  throw (.fault ⟨⟨fault, String.ofList fragment, span.start, (← excerpt).source⟩, span⟩)

def marker : Scan Role := do
  let start ← position
  let marker ← takeWhile isMarkerChar
  if marker.isEmpty then
    let stop ← chunkEnd start
    let next ← add start (((← peek).map Char.utf8Size).getD 0)
    report .noMarker start (max stop next)
  else
    match Role.ofMarker? (String.ofList marker) with
    | none => report (.unknownMarker (String.ofList marker)) start (← position)
    | some role => return role

/-- The name of a verb and the parenthesis that closes it. -/
def verbName (termStart : Nat) : Scan Term := do
  let name ← takeWhile isNameChar
  match ← peek with
  | some ')' =>
    let _ ← advance
    if name.isEmpty then report .noVerbName termStart (← position)
    else return .verb (String.ofList name)
  | some '(' => report .openingInVerbName termStart (← add (← position) 1)
  | _ => report .unclosedVerbName termStart (← position)

/-- The parenthesis that closes a term, right after its literal. -/
def closeLiteral (termStart literalStart : Nat) : Scan Term := do
  let literal ← cut literalStart (← position)
  if (← peek) ≠ some ')' then
    let stop ← chunkEnd (← position)
    report .noClosingAfterLiteral termStart (max stop (← position))
  else
    let _ ← advance
    return .directObject (String.ofList literal)

/-- A quoted literal and the parenthesis that closes it. -/
def quotedLiteral (termStart : Nat) : Scan Term := do
  if (← peek) ≠ some '"' then report .noQuote termStart (← chunkEnd termStart)
  else
    let literalStart ← position
    let _ ← advance
    match Text.find? (· == '"') (← rest) with
    | none => report .unclosedLiteral termStart (← textEnd)
    | some distance =>
      moveBehind distance
      closeLiteral termStart literalStart

def term : Scan (Located Term) := do
  let start ← position
  let role ← marker
  if (← peek) ≠ some '(' then
    let marker ← cut start (← position)
    report (.noOpening (String.ofList marker)) start (← chunkEnd start)
  else
    let _ ← advance
    let term ← match role with
      | .verb => verbName start
      | .directObject => quotedLiteral start
    return ⟨term, ← span start (← position)⟩

/-- What follows a term and the blanks after it, if there are any: the end, or another term. -/
def turnEnd (term : Located Term) (separated : Bool) : Scan (Located Term × Bool) := do
  if ← atEnd then return (term, false)
  else if (← peek) = some ')' then
    report .strayClosing (← position) (← add (← position) 1)
  else if !separated then
    report .noGap (← position) (← chunkEnd (← position))
  else return (term, true)

/-- One turn of the scan: a term, and whether there must be another one. -/
def turn : Scan (Located Term × Bool) := do
  let term ← term
  let separated ← skipBlanks
  turnEnd term separated

/-- One turn, whose term is added to those of the turns before. -/
def gather (terms : List (Located Term)) : Scan (List (Located Term) ⊕ List (Located Term)) := do
  let (term, more) ← turn
  if more then return .inl (terms ++ [term]) else return .inr (terms ++ [term])

def sentence : Scan (List (Located Term)) := do
  moveTo 0
  let _ ← skipBlanks
  if ← atEnd then report .noTerm (← position) (← position)
  else repeatM gather []

end Scan

namespace Scanner

/-- Carries out a scan from where the scanner stands. -/
def run {α : Type} (scanner : Scanner) (scan : Scan α) : Option (Except Halt α × Scanner) :=
  StateT.run (ExceptT.run scan) scanner

end Scanner

namespace Excerpt

/-- Scans the excerpt as one sentence. -/
def scan (excerpt : Excerpt) : Option (Except Scanner.Halt (List (Located Term)) × Scanner) :=
  Scanner.run { excerpt } Scan.sentence

end Excerpt

end FreeOrder
