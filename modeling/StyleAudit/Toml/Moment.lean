import StyleAudit.Decimal.Digits

/-!
Dates and times of TOML.

A moment is a day, a time of day, or both with perhaps an offset. Its text is the standard one: a
space between day and time, six digits of a second or none, and an offset with its sign.
-/

set_option autoImplicit false

namespace StyleAudit.Toml

/-- Reads a number of exactly `width` digits between two bounds. -/
def fixedNumber? (width low high : Nat) (text : List Char) : Option (Nat × List Char) :=
  let digits := text.take width
  let number := Decimal.numberOf digits
  if digits.length = width && digits.all Char.isDigit && low ≤ number && number ≤ high then
    some (number, text.drop width)
  else none

/-- Reads a character. -/
def mark? (character : Char) : List Char → Option (List Char)
  | first :: rest => if first = character then some rest else none
  | [] => none

/-- A number with zeros in front, so that it has at least `width` digits. -/
def padded (width number : Nat) : String :=
  let digits := Decimal.digitsOf number
  String.ofList (List.replicate (width - digits.length) '0' ++ digits)

/-- Whether a year has a leap day. -/
def isLeap (year : Nat) : Bool :=
  year % 4 = 0 && (year % 100 != 0 || year % 400 = 0)

/-- The number of days of a month. -/
def daysOf (year month : Nat) : Nat :=
  if month = 2 then (if isLeap year then 29 else 28)
  else if month = 4 || month = 6 || month = 9 || month = 11 then 30
  else 31

/-- Reads a day. -/
def day? (text : List Char) : Option (String × List Char) := do
  let (year, text) ← fixedNumber? 4 1 9999 text
  let (month, text) ← fixedNumber? 2 1 12 (← mark? '-' text)
  let (day, text) ← fixedNumber? 2 1 (daysOf year month) (← mark? '-' text)
  return (padded 4 year ++ "-" ++ padded 2 month ++ "-" ++ padded 2 day, text)

/-- The millionths of a second in front of a text; further digits are dropped. -/
def millionths (text : List Char) : Nat × List Char :=
  match text with
  | '.' :: rest =>
    let digits := Decimal.digitsAhead rest
    if digits.isEmpty then (0, text)
    else
      let kept := digits.take 6
      (Decimal.numberOf kept * Nat.pow 10 (6 - kept.length), rest.drop digits.length)
  | _ => (0, text)

/-- Reads a time of day. -/
def time? (text : List Char) : Option (String × List Char) := do
  let (hour, text) ← fixedNumber? 2 0 23 text
  let (minute, text) ← fixedNumber? 2 0 59 (← mark? ':' text)
  let (second, text) ← fixedNumber? 2 0 59 (← mark? ':' text)
  let (fraction, text) := millionths text
  let tail := if fraction = 0 then "" else "." ++ padded 6 fraction
  return (padded 2 hour ++ ":" ++ padded 2 minute ++ ":" ++ padded 2 second ++ tail, text)

/-- Reads an offset with a sign. -/
def signedOffset? (text : List Char) : Option (String × List Char) := do
  let (negative, text) ← match text with
    | '-' :: rest => some (true, rest)
    | '+' :: rest => some (false, rest)
    | _ => none
  let (hours, text) ← fixedNumber? 2 0 23 text
  let (minutes, text) ← fixedNumber? 2 0 59 (← mark? ':' text)
  let sign := if negative && (hours, minutes) != (0, 0) then "-" else "+"
  return (sign ++ padded 2 hours ++ ":" ++ padded 2 minutes, text)

/-- The offset in front of a text. -/
def offsetAhead (text : List Char) : String × List Char :=
  match text with
  | 'Z' :: rest => ("+00:00", rest)
  | 'z' :: rest => ("+00:00", rest)
  | _ => (signedOffset? text).getD ("", text)

/-- Reads a time of day, perhaps with an offset, behind the mark that follows a day. -/
def timeBehindDay? : List Char → Option (String × List Char)
  | mark :: rest =>
    if mark = 'T' || mark = 't' || mark = ' ' then do
      let (time, text) ← time? rest
      let (offset, text) := offsetAhead text
      return (" " ++ time ++ offset, text)
    else none
  | [] => none

/-- Reads a moment. -/
def moment? (text : List Char) : Option (String × List Char) :=
  match day? text with
  | some (day, rest) =>
    match timeBehindDay? rest with
    | some (time, after) => some (day ++ time, after)
    | none => some (day, rest)
  | none => time? text

end StyleAudit.Toml
