import Tollgate.Json.Value

/-!
Reading a JSON text: its lexical units are put together from left to right, with a stack of the
arrays and objects that are still open. A text is one value and nothing more.
-/

namespace Tollgate.Json

/-- An array or an object that is still open, with what it holds so far in reverse. An object waits
for the value of the key that came last. -/
inductive Frame
  | items (done : List Value)
  | members (done : List (Option String × Value)) (key : Option String)

/-- What has been read, and what may come: a value, or `]` right after `[`; a key, or `}` right
after `{`; a colon; or, after a value, whatever ends or continues what holds it. -/
inductive Reading
  | value (stack : List Frame)
  | firstItem (stack : List Frame)
  | key (stack : List Frame) (done : List (Option String × Value))
  | firstKey (stack : List Frame)
  | colon (stack : List Frame) (done : List (Option String × Value)) (key : Option String)
  | after (stack : List Frame) (v : Value)

namespace Reading

/-- Reads the first unit of a value. -/
def begin (stack : List Frame) : Token → Option Reading
  | .null => some (after stack .null)
  | .bool b => some (after stack (.bool b))
  | .natural n => some (after stack (.natural n))
  | .otherNumber => some (after stack .otherNumber)
  | .string s => some (after stack (.string s))
  | .openBracket => some (firstItem stack)
  | .openBrace => some (firstKey stack)
  | _ => none

/-- Reads a unit. -/
def step : Reading → Token → Option Reading
  | value stack, t => begin stack t
  | firstItem stack, .closeBracket => some (after stack (.array []))
  | firstItem stack, t => begin (.items [] :: stack) t
  | key stack done, .string k => some (colon stack done k)
  | firstKey stack, .string k => some (colon stack [] k)
  | firstKey stack, .closeBrace => some (after stack (.object []))
  | colon stack done k, .colon => some (value (.members done k :: stack))
  | after (.items done :: stack) v, .comma => some (value (.items (v :: done) :: stack))
  | after (.items done :: stack) v, .closeBracket =>
    some (after stack (.array (v :: done).reverse))
  | after (.members done k :: stack) v, .comma => some (key stack ((k, v) :: done))
  | after (.members done k :: stack) v, .closeBrace =>
    some (after stack (.object ((k, v) :: done).reverse))
  | _, _ => none

/-- Reads units to the end. -/
def run : Reading → List Token → Option Value
  | after [] v, [] => some v
  | _, [] => none
  | r, t :: ts => do run (← r.step t) ts

end Reading

/-- The value of lexical units. -/
def Value.ofTokens? (ts : List Token) : Option Value :=
  (Reading.value []).run ts

/-- The value of a text. -/
def Value.ofText? (s : String) : Option Value := do
  Value.ofTokens? (← tokens? s.toList)

end Tollgate.Json
