import Tollgate.Cache.Settings
import Tollgate.Failure
import Tollgate.Text.Blank

/-!
The settings of a guard: its counter store, its metrics and its caches.
-/

namespace Tollgate

/-- What a counter client does when its store cannot be reached: go on as if nothing were stored, or
fail. -/
inductive FailurePolicy
  | failOpen
  | failClosed
deriving DecidableEq, Repr

namespace FailurePolicy

instance : Inhabited FailurePolicy := ⟨failOpen⟩

/-- The name of a policy. -/
def name : FailurePolicy → String
  | failOpen => "open"
  | failClosed => "closed"

/-- The policy of that very name. -/
def ofName? : String → Option FailurePolicy
  | "open" => some failOpen
  | "closed" => some failClosed
  | _ => none

/-- Reads a policy from one of its spellings in any letter case, with white space around. The fault
shows the text trimmed and in small letters. -/
def ofText (text : List Char) : Except String FailurePolicy :=
  let word := String.ofList (Text.lower (Text.trim text))
  if word ∈ ["open", "fail-open", "fail_open"] then .ok failOpen
  else if word ∈ ["closed", "fail-closed", "fail_closed"] then .ok failClosed
  else .error s!"unknown failure policy '{word}', expected 'open' or 'closed'"

end FailurePolicy

/-- Where the counter store is and how it is used. The timeout is in milliseconds. -/
structure CounterSettings where
  enabled : Bool := false
  host : String := "localhost"
  port : UInt16 := 6379
  timeoutMs : UInt64 := 500
  policy : FailurePolicy := .failOpen
deriving DecidableEq, Repr

namespace CounterSettings

/-- The address of the store. -/
def url (s : CounterSettings) : String :=
  s!"redis://{s.host}:" ++ Decimal.text s.port.toNat

/-- The timeout in nanoseconds. -/
def timeout (s : CounterSettings) : Nat :=
  s.timeoutMs.toNat * 1000000

end CounterSettings

/-- Where metrics are sent, and the stem that all their names start with. -/
structure MetricsSettings where
  enabled : Bool := false
  host : String := "localhost"
  port : UInt16 := 8125
  stem : String := "notifications"
deriving DecidableEq, Repr

/-- The settings of a guard. -/
structure Settings where
  counter : CounterSettings := {}
  metrics : MetricsSettings := {}
  caches : CachesSettings := {}
deriving DecidableEq, Repr

end Tollgate
