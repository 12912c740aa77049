import Tollgate.Json.Value

/-!
Reading a structure from a JSON value. An object gives the fields by name: a field may come at most
once, and members of other names are passed over, even repeated ones. An array gives them in the
order in which they are declared and may end early.

Whether a field that did not come is a fault is for the field to say.
-/

namespace Tollgate.Json

/-- The fields that came, by name. -/
abbrev Fields := List (String × Value)

/-- The values of the members of that name. -/
def valuesOf (name : String) (ms : List (Option String × Value)) : List Value :=
  (ms.filter fun m => m.1 = some name).map (·.2)

/-- The fields of these names in a value. -/
def Value.fields? (names : List String) : Value → Option Fields
  | .object ms =>
    if ms.all (·.1.isSome) && names.all fun n => (valuesOf n ms).length ≤ 1 then
      some (names.flatMap fun n => (valuesOf n ms).map (n, ·))
    else none
  | .array items => if items.length ≤ names.length then some (names.zip items) else none
  | _ => none

namespace Fields

/-- The value of a field, if it came. -/
def get? (f : Fields) (name : String) : Option Value :=
  (f.find? fun p => p.1 = name).map (·.2)

/-- A field that has to come. -/
def required {α : Type} (f : Fields) (name : String) (read : Value → Option α) : Option α :=
  (f.get? name).bind read

/-- A field that reads as `default` if it does not come. -/
def defaulted {α : Type} (f : Fields) (name : String) (default : α) (read : Value → Option α) :
    Option α :=
  match f.get? name with
  | none => some default
  | some v => read v

end Fields

namespace Value

def bool? : Value → Option Bool
  | .bool b => some b
  | _ => none

def string? : Value → Option String
  | .string s => s
  | _ => none

/-- A natural number of sixteen bits. -/
def uint16? : Value → Option UInt16
  | .natural n => if n < UInt16.size then some (.ofNat n) else none
  | _ => none

/-- A natural number of 64 bits. -/
def uint64? : Value → Option UInt64
  | .natural n => if n < UInt64.size then some (.ofNat n) else none
  | _ => none

/-- An array of values that all can be read. -/
def list? {α : Type} (read : Value → Option α) : Value → Option (List α)
  | .array items => items.mapM read
  | _ => none

/-- The name of one of several alternatives: a string, or an object whose only member has that name
and is null. -/
def name? : Value → Option String
  | .string s => s
  | .object [(k, .null)] => k
  | _ => none

end Value

end Tollgate.Json
