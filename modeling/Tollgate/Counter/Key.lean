import Tollgate.Calendar.Date
import Tollgate.Uuid

/-!
The keys of the counter store: what is counted, for which service and on which day of universal
time. Whoever counts computes the same key.
-/

namespace Tollgate

/-- What is counted: the notifications sent in a day. -/
inductive CounterKind
  | count
deriving DecidableEq, Repr

namespace CounterKind

/-- The name of a kind. -/
def name : CounterKind → String
  | count => "count"

/-- The kind of that name. -/
def ofName? : String → Option CounterKind
  | "count" => some count
  | _ => none

end CounterKind

/-- The key of one counter. -/
structure CounterKey where
  service : ServiceId
  date : Date
  kind : CounterKind := .count
deriving DecidableEq

namespace CounterKey

/-- The key as the store knows it: service, date and kind with hyphens between. -/
def chars (k : CounterKey) : List Char :=
  k.service.chars ++ '-' :: k.date.chars ++ '-' :: k.kind.name.toList

@[inherit_doc chars]
def text (k : CounterKey) : String :=
  String.ofList k.chars

end CounterKey

end Tollgate
