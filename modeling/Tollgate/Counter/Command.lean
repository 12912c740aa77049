import Tollgate.Text.Decimal
import Tollgate.Text.Utf8

/-!
The commands of a counter store, and what a store answers to each.
-/

namespace Tollgate.Counter

/-- A command about one key. -/
inductive Command
  | get (key : String)
  | set (key : String) (value : Bytes)
  | incr (key : String)
  | delete (key : String)
deriving DecidableEq

namespace Command

/-- The key that a command is about. -/
def key : Command → String
  | get k | set k _ | incr k | delete k => k

/-- What a store answers: the value stored, if any; the count after an increment; or nothing. -/
def Answer : Command → Type
  | get _ => Option Bytes
  | set _ _ => Unit
  | incr _ => Int
  | delete _ => Unit

/-- What a client tells its caller. It may have no count to tell. -/
def Told : Command → Type
  | get _ => Option Bytes
  | set _ _ => Unit
  | incr _ => Option Int
  | delete _ => Unit

/-- What is told of an answer, or of the lack of one. -/
def told : (c : Command) → Option c.Answer → c.Told
  | get _, a => a.join
  | set _ _, _ => ()
  | incr _, a => a
  | delete _, _ => ()

end Command

/-- The bytes of a count. -/
def countBytes (n : Int) : Bytes :=
  Utf8.encode (Decimal.signed n)

end Tollgate.Counter
