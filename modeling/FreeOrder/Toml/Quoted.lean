import FreeOrder.Text.Lines

namespace FreeOrder.Toml

/-- The characters that stand for themselves in strings and comments. -/
def isTextChar (c : Char) : Bool :=
  c == '\t' || (0x20 ≤ c.toNat && c.toNat ≤ 0x7E) || 0x80 ≤ c.toNat

/-- The blanks that may stand between the words of a line. -/
def isSpace (c : Char) : Bool :=
  c == ' ' || c == '\t'

def hexDigit? (c : Char) : Option Nat :=
  if c.isDigit then some (c.toNat - '0'.toNat)
  else if 'a' ≤ c ∧ c ≤ 'f' then some (c.toNat - 'a'.toNat + 10)
  else if 'A' ≤ c ∧ c ≤ 'F' then some (c.toNat - 'A'.toNat + 10)
  else none

/-- The character with the code that the first so many digits of the text spell. -/
def codePoint? (count : Nat) (text : List Char) : Option Char := do
  let digits ← (text.take count).mapM hexDigit?
  let code := digits.foldl (fun code digit => code * 16 + digit) 0
  if digits.length = count ∧ code.isValidChar then some (Char.ofNat code) else none

/-- What an escape stands for, and how many characters spell it after its backslash. -/
def escape? : List Char → Option (Char × Nat)
  | 'b' :: _ => some ('\x08', 1)
  | 't' :: _ => some ('\t', 1)
  | 'n' :: _ => some ('\n', 1)
  | 'f' :: _ => some ('\x0C', 1)
  | 'r' :: _ => some ('\r', 1)
  | '"' :: _ => some ('"', 1)
  | '\\' :: _ => some ('\\', 1)
  | 'u' :: digits => (codePoint? 4 digits).map (·, 5)
  | 'U' :: digits => (codePoint? 8 digits).map (·, 9)
  | _ => none

/-- A text with one more character at its front, and what follows it. -/
def withFront (c : Char) (read : List Char × List Char) : List Char × List Char :=
  (c :: read.1, read.2)

/-- Reads a string of one line, with escapes, after its opening quote. -/
def readBasic (text : List Char) : Option (List Char × List Char) :=
  match text with
  | [] => none
  | '"' :: rest => some ([], rest)
  | '\\' :: rest =>
    match escape? rest with
    | some (c, length) => (readBasic (rest.drop length)).map (withFront c)
    | none => none
  | c :: rest => if isTextChar c then (readBasic rest).map (withFront c) else none
termination_by text.length

/-- Reads a string of one line, without escapes, after its opening quote. -/
def readLiteral (text : List Char) : Option (List Char × List Char) :=
  match text with
  | [] => none
  | '\'' :: rest => some ([], rest)
  | c :: rest => if isTextChar c then (readLiteral rest).map (withFront c) else none

/-- Whether the rest of the line is blank, so that a backslash before it joins the next line. -/
def endsLine (text : List Char) : Bool :=
  match text.dropWhile isSpace with
  | '\n' :: _ | '\r' :: '\n' :: _ => true
  | _ => false

/-- The text after the blanks and line ends that it begins with. -/
def dropBlankLines : List Char → List Char
  | ' ' :: rest | '\t' :: rest | '\n' :: rest | '\r' :: '\n' :: rest => dropBlankLines rest
  | text => text

theorem dropBlankLines_length_le (text : List Char) :
    (dropBlankLines text).length ≤ text.length := by
  fun_induction dropBlankLines text <;> simp_all <;> omega

/-- Reads a string of several lines, with escapes, after its opening quotes. -/
def readBasicLines (text : List Char) : Option (List Char × List Char) :=
  match text with
  | [] => none
  | '"' :: '"' :: '"' :: '"' :: '"' :: rest => some (['"', '"'], rest)
  | '"' :: '"' :: '"' :: '"' :: rest => some (['"'], rest)
  | '"' :: '"' :: '"' :: rest => some ([], rest)
  | '\\' :: rest =>
    if endsLine rest then readBasicLines (dropBlankLines rest)
    else
      match escape? rest with
      | some (c, length) => (readBasicLines (rest.drop length)).map (withFront c)
      | none => none
  | '\n' :: rest | '\r' :: '\n' :: rest => (readBasicLines rest).map (withFront '\n')
  | c :: rest => if isTextChar c then (readBasicLines rest).map (withFront c) else none
termination_by text.length
decreasing_by
  all_goals simp only [List.length_cons, List.length_drop]
  · exact Nat.lt_succ_of_le (dropBlankLines_length_le _)
  all_goals omega

/-- Reads a string of several lines, without escapes, after its opening quotes. -/
def readLiteralLines (text : List Char) : Option (List Char × List Char) :=
  match text with
  | [] => none
  | '\'' :: '\'' :: '\'' :: '\'' :: '\'' :: rest => some (['\'', '\''], rest)
  | '\'' :: '\'' :: '\'' :: '\'' :: rest => some (['\''], rest)
  | '\'' :: '\'' :: '\'' :: rest => some ([], rest)
  | '\n' :: rest | '\r' :: '\n' :: rest => (readLiteralLines rest).map (withFront '\n')
  | c :: rest => if isTextChar c then (readLiteralLines rest).map (withFront c) else none

/-- Reads a string in any of its four forms. -/
def readString (text : List Char) : Option (String × List Char) :=
  let read :=
    match text with
    | '"' :: '"' :: '"' :: rest => readBasicLines (Text.dropLineBreak rest)
    | '"' :: rest => readBasic rest
    | '\'' :: '\'' :: '\'' :: rest => readLiteralLines (Text.dropLineBreak rest)
    | '\'' :: rest => readLiteral rest
    | _ => none
  read.map fun (content, rest) => (String.ofList content, rest)

end FreeOrder.Toml
