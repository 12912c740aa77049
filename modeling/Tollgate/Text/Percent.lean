import Tollgate.Text.Utf8
import Tollgate.Uuid

/-!
Percent encoding: a byte is written as `%` and two hexadecimal digits. In the fields of a query a
plus sign also stands for a space.
-/

namespace Tollgate.Percent

/-- The bytes of a text in UTF-8, with each encoded byte in its place. A `%` that is not followed by
two digits stands for itself. -/
def decode : List Char → Bytes
  | [] => []
  | '%' :: a :: b :: rest =>
    match Uuid.hexValue? a, Uuid.hexValue? b with
    | some high, some low => UInt8.ofNat (16 * high + low) :: decode rest
    | _, _ => Utf8.encode ['%'] ++ decode (a :: b :: rest)
  | c :: rest => Utf8.encode [c] ++ decode rest

/-- The text of a name or value in a query. -/
def fieldText (cs : List Char) : List Char :=
  Utf8.decodeLossy (decode (cs.map fun c => if c = '+' then ' ' else c))

/-- The fields of a query: between `&` signs, a name and behind the first `=` its value. -/
def fields (cs : List Char) : List (List Char × List Char) :=
  ((cs.splitOn '&').filter (!·.isEmpty)).map fun field =>
    (fieldText (field.takeWhile (· ≠ '=')), fieldText ((field.dropWhile (· ≠ '=')).drop 1))

end Tollgate.Percent
