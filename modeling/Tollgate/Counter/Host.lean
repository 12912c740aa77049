import Tollgate.Text.Decimal
import Tollgate.Uuid

/-!
Which texts name a host: an Internet address of version 6 in brackets, or any text without the
characters that the parts of an address are told apart by.
-/

namespace Tollgate.Counter

/-- Characters that no host may hold. -/
def isForbiddenInHost (c : Char) : Bool :=
  c = '\x00' || c = ' ' || c = '#' || c = '/' || c = ':' || c = '<' || c = '>' || c = '?' ||
    c = '@' || c = '[' || c = '\\' || c = ']' || c = '^' || c = '|'

/-- Whether this is one of the four numbers of an Internet address of version 4. -/
def isOctet (cs : List Char) : Bool :=
  1 ≤ cs.length && cs.length ≤ 3 && cs.all Decimal.isDigit && Decimal.value cs ≤ 255 &&
    (cs.length = 1 || cs.head? != some '0')

/-- Whether this is a group of a version 6 address. -/
def isGroup (cs : List Char) : Bool :=
  1 ≤ cs.length && cs.length ≤ 4 && cs.all fun c => (Uuid.hexValue? c).isSome

/-- How many groups the parts between colons fill: one each, and a whole address of version 4 at
the end two. -/
def groupCount? : List (List Char) → Option Nat
  | [] => some 0
  | [part] =>
    let octets := part.splitOn '.'
    if isGroup part then some 1
    else if octets.length = 4 && octets.all isOctet then some 2
    else none
  | part :: rest => if isGroup part then (groupCount? rest).map (1 + ·) else none

/-- The parts between colons; an empty text has none. -/
def colonParts (cs : List Char) : List (List Char) :=
  if cs.isEmpty then [] else cs.splitOn ':'

/-- What stands before and behind the first two colons in a row. -/
def splitGap : List Char → Option (List Char × List Char)
  | ':' :: ':' :: rest => some ([], rest)
  | c :: rest => (splitGap rest).map fun (front, back) => (c :: front, back)
  | [] => none

/-- Whether this is an Internet address of version 6: eight groups, or fewer around one gap. -/
def isVersion6 (cs : List Char) : Bool :=
  match splitGap cs with
  | none => groupCount? (colonParts cs) = some 8
  | some (front, back) =>
    (colonParts front).all isGroup &&
      (groupCount? (colonParts back)).any fun n => (colonParts front).length + n ≤ 7

/-- Whether this names a host. -/
def isHost (cs : List Char) : Bool :=
  match cs with
  | [] => false
  | '[' :: rest => rest.getLast? == some ']' && isVersion6 rest.dropLast
  | cs => !cs.any isForbiddenInHost

end Tollgate.Counter
