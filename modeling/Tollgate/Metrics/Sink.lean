import Tollgate.Config.Basic
import Tollgate.Text.Shortest

/-!
Metrics as lines of the StatsD format: a name, a value and its kind, and the rate at which samples
are taken if that is below one. Every line is a datagram of its own.
-/

namespace Tollgate.Metrics

/-- A sample: a count to add, a time in milliseconds, or a level. -/
inductive Sample
  | count (n : Int)
  | timing (millis : Nat)
  | gauge (value : Nat)
deriving DecidableEq, Repr

/-- The value of a sample and the mark of its kind. -/
def Sample.chars : Sample → List Char
  | count n => Decimal.signed n ++ ['|', 'c']
  | timing ms => Decimal.digits ms ++ ['|', 'm', 's']
  | gauge v => Decimal.digits v ++ ['|', 'g']

/-- Where samples go: nowhere, or out under a stem. -/
structure Sink where
  stem : Option String
deriving DecidableEq, Repr

namespace Sink

/-- The sink that drops every sample. -/
def disabled : Sink where
  stem := none

/-- The sink that settings ask for. A host that holds a NUL cannot be looked up, and then there is
no sink. -/
def ofSettings (s : MetricsSettings) : Sink where
  stem := if s.enabled && !s.host.toList.contains '\x00' then some s.stem else none

/-- Whether samples are sent. -/
def isEnabled (s : Sink) : Bool :=
  s.stem.isSome

/-- What stands before every name: the stem without dots at its end, and one dot. -/
def lead (stem : String) : List Char :=
  if stem.isEmpty then []
  else (stem.toList.reverse.dropWhile (· = '.')).reverse ++ ['.']

/-- The line of a sample that is always sent. -/
def line (stem name : String) (sample : Sample) : String :=
  String.ofList (lead stem ++ name.toList ++ ':' :: sample.chars)

/-- Sends a sample. -/
def send (s : Sink) (name : String) (sample : Sample) : List String :=
  s.stem.toList.map fun stem => line stem name sample

/-- Sends a sample at a rate: always from one on, never up to zero, and in between if a number drawn
from 0 to 1 falls below the rate. A rate that is no number counts as one. -/
def sendAt (s : Sink) (rate draw : Float) (name : String) (sample : Sample) : List String :=
  if rate ≥ 1 then s.send name sample
  else if rate ≤ 0 || draw ≥ rate then []
  else
    let mark := if rate < 1 then String.ofList ('|' :: '@' :: Decimal.shortest rate) else ""
    (s.send name sample).map (· ++ mark)

end Sink

/-- Whole milliseconds of a time in seconds: rounded, and within what 64 bits hold. -/
def millis (seconds : Float) : Nat :=
  (seconds * 1000).round.toUInt64.toNat

end Tollgate.Metrics
