import Tollgate.Text.Decimal
import Tollgate.Uuid

/-!
The lexical units of a JSON text. The text is read character by character; between two units any
amount of white space may stand, and none changes what is read.

A number is the longest run of characters that numbers are made of; whether it is one is decided
when it has ended. A string is read as code units, so that two escapes may name one character.
-/

namespace Tollgate.Json

/-- A lexical unit. A string in which an escape names half a character has no text. -/
inductive Token
  | openBrace
  | closeBrace
  | openBracket
  | closeBracket
  | comma
  | colon
  | null
  | bool (b : Bool)
  | natural (n : Nat)
  | otherNumber
  | string (text : Option String)
deriving DecidableEq, Repr

/-- White space of a JSON text. -/
def isSpace (c : Char) : Bool :=
  c = ' ' || c = '\n' || c = '\r' || c = '\t'

/-- The characters that numbers are made of. -/
def isNumeric (c : Char) : Bool :=
  Decimal.isDigit c || c = '-' || c = '+' || c = '.' || c = 'e' || c = 'E'

/-- Whether digits stand there and nothing else. -/
def isDigits (cs : List Char) : Bool :=
  !cs.isEmpty && cs.all Decimal.isDigit

/-- Whether this is the integer part of a number: one digit, or more that do not start with zero. -/
def isInteger (cs : List Char) : Bool :=
  isDigits cs && (cs.length = 1 || cs.head? != some '0')

/-- Whether this is an exponent without its mark: digits behind at most one sign. -/
def isExponent : List Char → Bool
  | '+' :: ds | '-' :: ds => isDigits ds
  | ds => isDigits ds

/-- Whether this may follow the integer part: a fraction, an exponent, both or neither. -/
def isNumberTail : List Char → Bool
  | [] => true
  | '.' :: cs =>
    let rest := cs.dropWhile Decimal.isDigit
    isDigits (cs.takeWhile Decimal.isDigit) &&
      match rest with
      | [] => true
      | e :: ex => (e = 'e' || e = 'E') && isExponent ex
  | e :: ex => (e = 'e' || e = 'E') && isExponent ex

/-- The unit that a run of numeric characters is. Only bare digits make a natural number. -/
def number? (cs : List Char) : Option Token :=
  if isInteger cs then some (.natural (Decimal.value cs))
  else
    let body := if cs.head? = some '-' then cs.tail else cs
    if isInteger (body.takeWhile Decimal.isDigit) && isNumberTail (body.dropWhile Decimal.isDigit)
    then some .otherNumber
    else none

/-- Whether a code unit is the first half of a character. -/
def isLeading (u : Nat) : Bool :=
  0xD800 ≤ u && u < 0xDC00

/-- Whether a code unit is the second half of a character. -/
def isTrailing (u : Nat) : Bool :=
  0xDC00 ≤ u && u < 0xE000

/-- The characters that code units make, unless some half stands alone. -/
def joinUnits : List Nat → Option (List Char)
  | [] => some []
  | [u] => if isLeading u || isTrailing u then none else some [Char.ofNat u]
  | u :: v :: rest =>
    if isLeading u then
      if isTrailing v then
        (joinUnits rest).map (Char.ofNat (0x10000 + (u - 0xD800) * 0x400 + (v - 0xDC00)) :: ·)
      else none
    else if isTrailing u then none
    else (joinUnits (v :: rest)).map (Char.ofNat u :: ·)

/-- The code unit that a character stands for behind a backslash; `u` is not among them. -/
def escaped? (c : Char) : Option Nat :=
  match c with
  | '"' | '\\' | '/' => some c.toNat
  | 'b' => some 8
  | 't' => some 9
  | 'n' => some 10
  | 'f' => some 12
  | 'r' => some 13
  | _ => none

/-- Where reading stands: between units; in a word with these letters to come; in a number, with
its characters so far in reverse; or in a string, with its code units so far in reverse. -/
inductive Scan
  | between
  | word (left : List Char) (token : Token)
  | number (seen : List Char)
  | text (units : List Nat)
  | escape (units : List Nat)
  | hex (units : List Nat) (left value : Nat)
deriving DecidableEq, Repr

namespace Scan

/-- Reads a character between units. -/
def start (c : Char) : Option (List Token × Scan) :=
  if isSpace c then some ([], between)
  else if Decimal.isDigit c || c = '-' then some ([], number [c])
  else
    match c with
    | '{' => some ([.openBrace], between)
    | '}' => some ([.closeBrace], between)
    | '[' => some ([.openBracket], between)
    | ']' => some ([.closeBracket], between)
    | ',' => some ([.comma], between)
    | ':' => some ([.colon], between)
    | '"' => some ([], text [])
    | 'n' => some ([], word ['u', 'l', 'l'] .null)
    | 't' => some ([], word ['r', 'u', 'e'] (.bool true))
    | 'f' => some ([], word ['a', 'l', 's', 'e'] (.bool false))
    | _ => none

/-- Reads a character: the units that end with it, and where reading stands then. -/
def step : Scan → Char → Option (List Token × Scan)
  | between, c => start c
  | word [] _, _ => none
  | word [d] t, c => if c = d then some ([t], between) else none
  | word (d :: left) t, c => if c = d then some ([], word left t) else none
  | number seen, c =>
    if isNumeric c then some ([], number (c :: seen))
    else do
      let t ← number? seen.reverse
      let (ts, next) ← start c
      return (t :: ts, next)
  | text units, c =>
    if c = '"' then some ([.string ((joinUnits units.reverse).map String.ofList)], between)
    else if c = '\\' then some ([], escape units)
    else if c.toNat < 0x20 then none
    else some ([], text (c.toNat :: units))
  | escape units, c =>
    if c = 'u' then some ([], hex units 4 0)
    else (escaped? c).map fun u => ([], text (u :: units))
  | hex units left value, c => do
    let d ← Uuid.hexValue? c
    if left ≤ 1 then return ([], text ((16 * value + d) :: units))
    else return ([], hex units (left - 1) (16 * value + d))

/-- What ends with the text: nothing, or a number. -/
def finish : Scan → Option (List Token)
  | between => some []
  | number seen => (number? seen.reverse).map ([·])
  | _ => none

/-- Reads characters to the end of the text. -/
def run : Scan → List Char → Option (List Token)
  | s, [] => s.finish
  | s, c :: rest => do
    let (ts, next) ← s.step c
    return ts ++ (← run next rest)

end Scan

/-- The units of a text. -/
def tokens? (cs : List Char) : Option (List Token) :=
  Scan.between.run cs

/-- A character as it is written in a string. -/
def escapeChar (c : Char) : List Char :=
  if c = '"' then ['\\', '"']
  else if c = '\\' then ['\\', '\\']
  else if c = '\n' then ['\\', 'n']
  else if c = '\r' then ['\\', 'r']
  else if c = '\t' then ['\\', 't']
  else if c.toNat = 8 then ['\\', 'b']
  else if c.toNat = 12 then ['\\', 'f']
  else if c.toNat < 0x20 then '\\' :: 'u' :: Uuid.hexDigits 4 c.toNat
  else [c]

/-- A string in its quotes. -/
def quote (s : String) : List Char :=
  '"' :: s.toList.flatMap escapeChar ++ ['"']

/-- The written form of a unit. -/
def Token.chars : Token → List Char
  | openBrace => ['{']
  | closeBrace => ['}']
  | openBracket => ['[']
  | closeBracket => [']']
  | comma => [',']
  | colon => [':']
  | null => "null".toList
  | bool b => if b then "true".toList else "false".toList
  | natural n => Decimal.digits n
  | otherNumber => ['-', '0']
  | string text => quote (text.getD "")

end Tollgate.Json
