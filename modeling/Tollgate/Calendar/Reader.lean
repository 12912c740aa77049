import Tollgate.Calendar.Timestamp
import Tollgate.Text.Blank

/-!
Reading dates and instants. The forms of `Date.text` and `Timestamp.text` are read, and so are
looser ones: white space between the parts, fewer digits, a space or a small `t` before the time,
and any offset from universal time.

Each step takes a part off the front of the text and leaves the rest.
-/

namespace Tollgate.Calendar

/-- A step of reading: a part, and what is left of the text. -/
abbrev Step (α : Type) := List Char → Option (α × List Char)

/-- The longest run of at most `width` digits, and what follows it. -/
def takeDigits : Nat → List Char → List Char × List Char
  | 0, cs => ([], cs)
  | _, [] => ([], [])
  | width + 1, c :: rest =>
    if Decimal.isDigit c then
      let (ds, tail) := takeDigits width rest
      (c :: ds, tail)
    else ([], c :: rest)

/-- One to `width` digits. -/
def number? (width : Nat) : Step Nat := fun cs =>
  match takeDigits width cs with
  | ([], _) => none
  | (ds, rest) => some (Decimal.value ds, rest)

/-- White space, then one to `width` digits. -/
def field? (width : Nat) : Step Nat := fun cs =>
  number? width (Text.trimStart cs)

/-- White space around one given character. -/
def mark? (c : Char) : List Char → Option (List Char) := fun cs =>
  match Text.trimStart cs with
  | d :: rest => if d = c then some (Text.trimStart rest) else none
  | [] => none

/-- A year: behind a sign any number of digits, without one at most four. -/
def year? : Step Int := fun cs =>
  match Text.trimStart cs with
  | '-' :: rest => (number? rest.length rest).map fun (n, r) => (-(n : Int), r)
  | '+' :: rest => (number? rest.length rest).map fun (n, r) => ((n : Int), r)
  | cs => (number? 4 cs).map fun (n, r) => ((n : Int), r)

/-- A day of the calendar. -/
def date? : Step Date := fun cs => do
  let (year, cs) ← year? cs
  let cs ← mark? '-' cs
  let (month, cs) ← field? 2 cs
  let cs ← mark? '-' cs
  let (day, cs) ← field? 2 cs
  let date ← Date.ofYmd? year month day
  return (date, cs)

/-- A fraction of a second, if there is one, in nanoseconds. Digits after the ninth are dropped. -/
def fraction? : Step Nat
  | '.' :: rest =>
    match takeDigits 9 rest with
    | ([], _) => none
    | (ds, tail) =>
      let all := ds ++ List.replicate (9 - ds.length) '0'
      some (Decimal.value all, tail.dropWhile fun c => Decimal.isDigit c)
  | cs => some (0, cs)

/-- A time of day as its second and nanoseconds; the second 60 is a leap second. -/
def time? : Step (Nat × Nat) := fun cs => do
  let (hour, cs) ← field? 2 cs
  let cs ← mark? ':' cs
  let (minute, cs) ← field? 2 cs
  let cs ← mark? ':' cs
  let (second, cs) ← field? 2 cs
  let (nanos, cs) ← fraction? cs
  guard (hour < 24 ∧ minute < 60 ∧ second ≤ 60)
  if second = 60 then return ((hour * 3600 + minute * 60 + 59, nanos + 1000000000), cs)
  else return ((hour * 3600 + minute * 60 + second, nanos), cs)

/-- Exactly two digits. -/
def twoDigits? : Step Nat
  | a :: b :: rest => do return (10 * (← Decimal.digit? a) + (← Decimal.digit? b), rest)
  | _ => none

/-- Hours and minutes of an offset in seconds, with colons or white space between or nothing. -/
def offsetBody? : Step Int := fun cs => do
  let (hours, cs) ← twoDigits? cs
  let (minutes, cs) ← twoDigits? (cs.dropWhile fun c => c = ':' || Text.isBlank c)
  guard (minutes < 60 ∧ hours < 24)
  return ((hours * 3600 + minutes * 60 : Nat), cs)

/-- An offset from universal time in seconds: `Z`, `UTC`, or a sign with hours and minutes. -/
def offset? : Step Int := fun cs =>
  if Text.lower (cs.take 3) = ['u', 't', 'c'] then some (0, cs.drop 3)
  else
    match cs with
    | 'Z' :: rest | 'z' :: rest => some (0, rest)
    | '+' :: rest => offsetBody? rest
    | '-' :: rest | '\u2212' :: rest => (offsetBody? rest).map fun (n, r) => (-n, r)
    | _ => none

/-- An instant. -/
def timestamp? : Step Timestamp := fun cs => do
  let (date, cs) ← date? cs
  match cs with
  | c :: cs =>
    guard (c = 'T' ∨ c = 't' ∨ c = ' ')
    let ((second, nanos), cs) ← time? cs
    let (offset, cs) ← offset? (Text.trimStart cs)
    let t ← Timestamp.ofLocal? date second nanos offset
    return (t, cs)
  | [] => none

/-- A step that leaves nothing but white space. -/
def whole? {α : Type} (step : Step α) (cs : List Char) : Option α :=
  match step cs with
  | some (a, rest) => if (Text.trimStart rest).isEmpty then some a else none
  | none => none

end Tollgate.Calendar

namespace Tollgate

/-- Reads a date. -/
def Date.ofText? (s : String) : Option Date :=
  Calendar.whole? Calendar.date? s.toList

/-- Reads an instant. -/
def Timestamp.ofText? (s : String) : Option Timestamp :=
  Calendar.whole? Calendar.timestamp? s.toList

end Tollgate
