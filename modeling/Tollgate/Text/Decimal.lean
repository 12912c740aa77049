/-!
Decimal numerals: how a number is written, and how one is read with a bound on its size.

A numeral is read digit by digit, and the first character that is no digit or makes the number too
large decides the fault. So a long numeral with a stray letter at its end is too large, not
malformed.
-/

namespace Tollgate.Decimal

/-- The character of a digit below ten. -/
def digitChar (d : Nat) : Char :=
  Char.ofNat (48 + d)

/-- The value of an ASCII digit; every other character, a digit of another script included, has
none. -/
def digit? (c : Char) : Option Nat :=
  if '0' ≤ c ∧ c ≤ '9' then some (c.toNat - 48) else none

/-- Whether a character is an ASCII digit. -/
def isDigit (c : Char) : Bool :=
  (digit? c).isSome

/-- The number that digits denote; a character that is no digit counts as zero. -/
def value (ds : List Char) : Nat :=
  ds.foldl (fun n c => 10 * n + (digit? c).getD 0) 0

/-- The digits of a number, most significant first, without leading zeros. -/
def digits (n : Nat) : List Char :=
  if n < 10 then [digitChar n] else digits (n / 10) ++ [digitChar (n % 10)]

/-- The number in exactly `width` digits; higher digits are dropped. -/
def padded : Nat → Nat → List Char
  | 0, _ => []
  | width + 1, n => padded width (n / 10) ++ [digitChar (n % 10)]

/-- A number in at least `width` digits. -/
def atLeast (width n : Nat) : List Char :=
  let ds := digits n
  List.replicate (width - ds.length) '0' ++ ds

/-- The digits of an integer behind a minus sign if it is negative. -/
def signed (i : Int) : List Char :=
  if i < 0 then '-' :: digits i.natAbs else digits i.natAbs

/-- The text of a number. -/
def text (n : Nat) : String :=
  String.ofList (digits n)

/-- The text of an integer. -/
def signedText (i : Int) : String :=
  String.ofList (signed i)

/-- Why a text is not a numeral of the wanted size. -/
inductive Fault
  | empty
  | invalidDigit
  | tooLarge
deriving DecidableEq, Repr

/-- The wording of a fault. -/
def Fault.message : Fault → String
  | .empty => "cannot parse integer from empty string"
  | .invalidDigit => "invalid digit found in string"
  | .tooLarge => "number too large to fit in target type"

/-- Reads the remaining digits onto `acc`, which may not pass `limit`. -/
def accumulate (limit : Nat) : Nat → List Char → Except Fault Nat
  | acc, [] => .ok acc
  | acc, c :: rest =>
    match digit? c with
    | none => .error .invalidDigit
    | some d =>
      if 10 * acc + d ≤ limit then accumulate limit (10 * acc + d) rest else .error .tooLarge

/-- Reads an unsigned numeral of at most `limit`: an optional `+` and at least one digit. -/
def readNat (limit : Nat) : List Char → Except Fault Nat
  | [] => .error .empty
  | ['+'] => .error .invalidDigit
  | '+' :: rest => accumulate limit 0 rest
  | cs => accumulate limit 0 cs

/-- Reads an unsigned numeral of sixteen bits. -/
def readUInt16 (cs : List Char) : Except Fault UInt16 :=
  (readNat (UInt16.size - 1) cs).map UInt16.ofNat

/-- Reads an unsigned numeral of 64 bits. -/
def readUInt64 (cs : List Char) : Except Fault UInt64 :=
  (readNat (UInt64.size - 1) cs).map UInt64.ofNat

/-- The least and the largest 64-bit count. -/
def int64Min : Int := -9223372036854775808

@[inherit_doc int64Min]
def int64Max : Int := 9223372036854775807

/-- Reads a signed 64-bit numeral: an optional sign and at least one digit. -/
def readInt64? : List Char → Option Int
  | [] => none
  | ['+'] => none
  | ['-'] => none
  | '-' :: rest => (accumulate int64Min.natAbs 0 rest).toOption.map fun n => -(n : Int)
  | '+' :: rest => (accumulate int64Max.natAbs 0 rest).toOption.map Int.ofNat
  | cs => (accumulate int64Max.natAbs 0 cs).toOption.map Int.ofNat

end Tollgate.Decimal
