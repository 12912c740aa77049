/-!
Universally unique identifiers: 128 bits, written as 32 hexadecimal digits in five groups.

Four written forms are read: the hyphenated one, 32 bare digits, the hyphenated one in braces, and
the hyphenated one behind `urn:uuid:`. All letters may have either case; writing uses small letters
and hyphens only.
-/

namespace Tollgate

/-- How many identifiers there are: two to the 128. -/
def uuidCount : Nat :=
  340282366920938463463374607431768211456

/-- A 128-bit identifier. -/
structure Uuid where
  value : Nat
  value_lt : value < uuidCount
deriving DecidableEq, Repr

namespace Uuid

instance : Inhabited Uuid := ⟨⟨0, by decide⟩⟩

/-- The identifier of a number, taken modulo the width. -/
def ofNat (n : Nat) : Uuid :=
  ⟨n % uuidCount, Nat.mod_lt _ (by decide)⟩

/-- The small hexadecimal digit of a number below sixteen. -/
def hexChar (d : Nat) : Char :=
  if d < 10 then Char.ofNat (48 + d) else Char.ofNat (87 + d)

/-- The value of a hexadecimal digit of either case. -/
def hexValue? (c : Char) : Option Nat :=
  if '0' ≤ c ∧ c ≤ '9' then some (c.toNat - 48)
  else if 'a' ≤ c ∧ c ≤ 'f' then some (c.toNat - 87)
  else if 'A' ≤ c ∧ c ≤ 'F' then some (c.toNat - 55)
  else none

/-- The last `count` hexadecimal digits of a number, most significant first. -/
def hexDigits : Nat → Nat → List Char
  | 0, _ => []
  | count + 1, n => hexDigits count (n / 16) ++ [hexChar (n % 16)]

/-- The number that hexadecimal digits denote, if all are digits. -/
def ofHexDigits? : Nat → List Char → Option Nat
  | acc, [] => some acc
  | acc, c :: rest =>
    match hexValue? c with
    | none => none
    | some d => ofHexDigits? (16 * acc + d) rest

/-- Digits in groups of eight, four, four, four and twelve, with hyphens between. -/
def hyphenate (ds : List Char) : List Char :=
  ds.take 8 ++ '-' :: (ds.drop 8).take 4 ++ '-' :: (ds.drop 12).take 4 ++
    '-' :: (ds.drop 16).take 4 ++ '-' :: ds.drop 20

/-- The written form: hyphenated, in small letters. -/
def chars (u : Uuid) : List Char :=
  hyphenate (hexDigits 32 u.value)

@[inherit_doc chars]
def text (u : Uuid) : String :=
  String.ofList u.chars

/-- Reads 32 bare digits. -/
def readSimple? (cs : List Char) : Option Uuid :=
  if cs.length = 32 then
    (ofHexDigits? 0 cs).bind fun n => if h : n < uuidCount then some ⟨n, h⟩ else none
  else none

/-- Reads the hyphenated form: 36 characters, the hyphens in their four places. -/
def readHyphenated? (cs : List Char) : Option Uuid :=
  let bare := cs.take 8 ++ (cs.drop 9).take 4 ++ (cs.drop 14).take 4 ++ (cs.drop 19).take 4 ++
    cs.drop 24
  if cs = hyphenate bare then readSimple? bare else none

/-- Reads any of the four written forms. -/
def read? (cs : List Char) : Option Uuid :=
  if cs.length = 32 then readSimple? cs
  else if cs.length = 38 && cs.head? == some '{' && cs.getLast? == some '}' then
    readHyphenated? ((cs.drop 1).take 36)
  else if (cs.take 9).map Char.toLower = "urn:uuid:".toList then readHyphenated? (cs.drop 9)
  else readHyphenated? cs

/-- Reads an identifier from its text. -/
def ofText? (s : String) : Option Uuid :=
  read? s.toList

end Uuid

/-- A service is known by its identifier. -/
abbrev ServiceId := Uuid

end Tollgate
