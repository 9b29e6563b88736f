namespace FreeOrder.Toml

/-- A day of the Gregorian calendar. -/
structure Date where
  year : Nat
  month : Nat
  day : Nat
deriving DecidableEq, Repr

/-- A time of day, which may fall into a leap second. -/
structure Time where
  hour : Nat
  minute : Nat
  second : Nat
  nanosecond : Nat
deriving DecidableEq, Repr

/-- The zone that a time is given in. An offset is a number of minutes, ahead of UTC or behind. -/
inductive Zone
  | utc
  | offset (behind : Bool) (minutes : Nat)
deriving DecidableEq, Repr

inductive Moment
  | onDate (date : Date)
  | atTime (time : Time)
  | dateTime (date : Date) (time : Time) (zone : Option Zone)
deriving DecidableEq, Repr

/-- The number in decimal digits, with zeros before it up to the width. -/
def padded (width value : Nat) : String :=
  let digits := Nat.toDigits 10 value
  String.ofList (List.replicate (width - digits.length) '0' ++ digits)

namespace Date

def daysInMonth (year month : Nat) : Nat :=
  if month = 2 then
    if year % 4 = 0 ∧ (year % 100 ≠ 0 ∨ year % 400 = 0) then 29 else 28
  else if month ∈ [4, 6, 9, 11] then 30
  else 31

/-- The date with dashes between its parts. -/
def text (date : Date) : String :=
  padded 4 date.year ++ "-" ++ padded 2 date.month ++ "-" ++ padded 2 date.day

end Date

namespace Time

/-- The time with colons between its parts, and a fraction without zeros at its end. -/
def text (time : Time) : String :=
  let whole := padded 2 time.hour ++ ":" ++ padded 2 time.minute ++ ":" ++ padded 2 time.second
  if time.nanosecond = 0 then whole
  else
    let fraction := (padded 9 time.nanosecond).toList.reverse.dropWhile (· == '0')
    whole ++ "." ++ String.ofList fraction.reverse

end Time

/-- The letter `Z`, or a sign, the hours and the minutes. -/
def Zone.text : Zone → String
  | utc => "Z"
  | offset behind minutes =>
    (if behind ∧ minutes ≠ 0 then "-" else "+") ++
      padded 2 (minutes / 60) ++ ":" ++ padded 2 (minutes % 60)

/-- The one way to write the moment that is used in output. -/
def Moment.text : Moment → String
  | onDate date => date.text
  | atTime time => time.text
  | dateTime date time zone => date.text ++ "T" ++ time.text ++ (zone.map Zone.text).getD ""

/-- Reads a number of exactly so many decimal digits. -/
def readDigits (count : Nat) (text : List Char) : Option (Nat × List Char) :=
  let digits := text.take count
  if digits.length = count ∧ digits.all Char.isDigit then
    some (digits.foldl (fun value c => value * 10 + (c.toNat - '0'.toNat)) 0, text.drop count)
  else none

/-- Reads a number of two digits that lies in the range. -/
def readPart (low high : Nat) (text : List Char) : Option (Nat × List Char) := do
  let (value, rest) ← readDigits 2 text
  if low ≤ value ∧ value ≤ high then return (value, rest) else none

def readMark (mark : Char) : List Char → Option (List Char)
  | c :: rest => if c = mark then some rest else none
  | [] => none

def readDate (text : List Char) : Option (Date × List Char) := do
  let (year, text) ← readDigits 4 text
  let text ← readMark '-' text
  let (month, text) ← readPart 1 12 text
  let text ← readMark '-' text
  let (day, text) ← readPart 1 (Date.daysInMonth year month) text
  return (⟨year, month, day⟩, text)

/-- Reads a fraction of a second. Digits beyond the nanoseconds are dropped. -/
def readFraction (text : List Char) : Nat × List Char :=
  match text with
  | '.' :: rest =>
    let digits := rest.takeWhile Char.isDigit
    if digits.isEmpty then (0, text)
    else
      let kept := digits.take 9
      let value := kept.foldl (fun value c => value * 10 + (c.toNat - '0'.toNat)) 0
      (value * Nat.pow 10 (9 - kept.length), rest.dropWhile Char.isDigit)
  | _ => (0, text)

def readTime (text : List Char) : Option (Time × List Char) := do
  let (hour, text) ← readPart 0 23 text
  let text ← readMark ':' text
  let (minute, text) ← readPart 0 59 text
  let text ← readMark ':' text
  let (second, text) ← readPart 0 60 text
  let (nanosecond, text) := readFraction text
  return (⟨hour, minute, second, nanosecond⟩, text)

def readOffset (text : List Char) : Option (Zone × List Char) := do
  let (sign, text) ← text.head?.map (·, text.tail)
  let behind ← if sign = '-' then some true else if sign = '+' then some false else none
  let (hours, text) ← readPart 0 23 text
  let text ← readMark ':' text
  let (minutes, text) ← readPart 0 59 text
  return (.offset behind (hours * 60 + minutes), text)

def readZone (text : List Char) : Option Zone × List Char :=
  match text with
  | 'Z' :: rest | 'z' :: rest => (some .utc, rest)
  | _ =>
    match readOffset text with
    | some (zone, rest) => (some zone, rest)
    | none => (none, text)

/-- Reads a date with the time that may follow it, or else a time of day. -/
def readMoment (text : List Char) : Option (Moment × List Char) :=
  match readDate text with
  | none => (readTime text).map fun (time, rest) => (.atTime time, rest)
  | some (date, rest) =>
    let time :=
      match rest with
      | 'T' :: more | 't' :: more | ' ' :: more => readTime more
      | _ => none
    match time with
    | none => some (.onDate date, rest)
    | some (time, more) =>
      let (zone, more) := readZone more
      some (.dateTime date time zone, more)

end FreeOrder.Toml
