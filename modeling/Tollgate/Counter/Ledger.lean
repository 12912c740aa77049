import Tollgate.Counter.Command
import Tollgate.Failure
import Tollgate.Table

/-!
A counter store in memory. It holds bytes under each key, counts the commands it gets, and can be
made unavailable. A failed command changes no value.
-/

namespace Tollgate.Counter

/-- A counter store in memory. -/
structure Ledger where
  values : Table String Bytes := {}
  operations : Nat := 0
  available : Bool := true

namespace Ledger

/-- The count in stored bytes: a signed 64-bit numeral and nothing around it. -/
def count? (value : Bytes) : Option Int :=
  (Utf8.decode? value).bind Decimal.readInt64?

/-- The count after a stored value. No value counts as zero. -/
def next (key : String) (value : Option Bytes) : Outcome Int :=
  match value with
  | none => .ok 1
  | some bytes =>
    match count? bytes with
    | none => .error (.invalidCount key (String.ofList (Utf8.decodeLossy bytes)))
    | some n =>
      if n = Decimal.int64Max then
        .error (.invalidCount key (Decimal.signedText n ++ " (increment would overflow)"))
      else .ok (n + 1)

/-- Does what an available store is told to. -/
def perform (l : Ledger) : (c : Command) → Outcome c.Answer × Ledger
  | .get key => (.ok (l.values.get? key), l)
  | .set key value => (.ok (), { l with values := l.values.put key value })
  | .incr key =>
    match next key (l.values.get? key) with
    | .ok n => (.ok n, { l with values := l.values.put key (countBytes n) })
    | .error e => (.error e, l)
  | .delete key => (.ok (), { l with values := l.values.erase key })

/-- Takes a command. -/
def run (l : Ledger) (c : Command) : Outcome c.Answer × Ledger :=
  let l := { l with operations := l.operations + 1 }
  if l.available then l.perform c
  else (.error (.storeUnavailable "memory backend marked unavailable"), l)

end Ledger

end Tollgate.Counter
