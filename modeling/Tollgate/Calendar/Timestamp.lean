import Tollgate.Calendar.Date

/-!
Instants of universal time to the nanosecond, written in the form of RFC 3339. A leap second is the
last second of its minute with a second thousand million of nanoseconds.
-/

namespace Tollgate

/-- What makes a second of the day and nanoseconds a time of day: only the last second of a minute
may be a leap second. -/
def IsTimeOfDay (second nanos : Nat) : Prop :=
  second < 86400 ∧ nanos < 2000000000 ∧ (1000000000 ≤ nanos → second % 60 = 59)

instance (second nanos : Nat) : Decidable (IsTimeOfDay second nanos) :=
  inferInstanceAs (Decidable (_ ∧ _ ∧ (_ → _)))

/-- An instant: its day, the second of that day and the nanoseconds. -/
structure Timestamp where
  date : Date
  second : Nat
  nanos : Nat
  isTime : IsTimeOfDay second nanos
deriving DecidableEq

namespace Timestamp

/-- The instant of these parts, if they are a time of day. -/
def ofParts? (date : Date) (second nanos : Nat) : Option Timestamp :=
  if h : IsTimeOfDay second nanos then some ⟨date, second, nanos, h⟩ else none

/-- The start of a day. -/
def midnight (date : Date) : Timestamp :=
  ⟨date, 0, 0, by decide⟩

/-- The instant at which a clock `offset` seconds ahead of universal time shows this local time. -/
def ofLocal? (date : Date) (second nanos : Nat) (offset : Int) : Option Timestamp :=
  let s := (second : Int) - offset
  if s < 0 then date.prev?.bind fun d => ofParts? d (s + 86400).toNat nanos
  else if 86400 ≤ s then date.next?.bind fun d => ofParts? d (s - 86400).toNat nanos
  else ofParts? date s.toNat nanos

/-- A number that grows with time. -/
def rank (t : Timestamp) : Int :=
  (t.date.rank * 86400 + t.second) * 2000000000 + t.nanos

/-- Whether `t` is later than `u`. -/
def isAfter (t u : Timestamp) : Bool :=
  decide (u.rank < t.rank)

/-- The fraction of a second in 0, 3, 6 or 9 digits, the fewest that lose nothing. -/
def fractionChars (nanos : Nat) : List Char :=
  if nanos = 0 then []
  else if nanos % 1000000 = 0 then '.' :: Decimal.padded 3 (nanos / 1000000)
  else if nanos % 1000 = 0 then '.' :: Decimal.padded 6 (nanos / 1000)
  else '.' :: Decimal.padded 9 nanos

/-- The written form. -/
def chars (t : Timestamp) : List Char :=
  let leap := 1000000000 ≤ t.nanos
  t.date.chars ++ 'T' :: Decimal.padded 2 (t.second / 3600) ++
    ':' :: Decimal.padded 2 (t.second / 60 % 60) ++
    ':' :: Decimal.padded 2 (if leap then 60 else t.second % 60) ++
    fractionChars (if leap then t.nanos - 1000000000 else t.nanos) ++ ['Z']

@[inherit_doc chars]
def text (t : Timestamp) : String :=
  String.ofList t.chars

end Timestamp

end Tollgate
