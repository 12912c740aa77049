import Tollgate.Text.Decimal

/-!
Decimal text of finite numbers with a binary fraction: the fewest digits that read back, and a fixed
number of places. All is exact arithmetic on the number's mantissa and exponent.
-/

namespace Tollgate.Decimal

/-- A positive number `mantissa * 2 ^ exponent`, with the spacing of the numbers next to it: the one
below is only half as far if `isPower`. -/
structure Binary where
  mantissa : Nat
  exponent : Int
  isPower : Bool
deriving DecidableEq, Repr

/-- The magnitude of a finite 64-bit number that is not zero. -/
def Binary.ofBits? (bits : Nat) : Option Binary :=
  let fraction : Nat := bits % (1 <<< 52)
  let power : Nat := (bits >>> 52) % (1 <<< 11)
  if power = 2047 then none
  else if power = 0 then
    if fraction = 0 then none else some ⟨fraction, -1074, false⟩
  else some ⟨(1 <<< 52) + fraction, (power : Int) - 1075, fraction = 0 && 1 < power⟩

/-- A fraction that is not reduced. -/
structure Ratio where
  num : Nat
  den : Nat
deriving DecidableEq, Repr

/-- The fraction `n * 2 ^ e`. -/
def Ratio.ofBinary (n : Nat) (e : Int) : Ratio :=
  if 0 ≤ e then ⟨n <<< e.toNat, 1⟩ else ⟨n, 1 <<< (-e).toNat⟩

/-- The fraction over `10 ^ k`. -/
def Ratio.overTen (r : Ratio) (k : Int) : Ratio :=
  if 0 ≤ k then ⟨r.num, r.den * Nat.pow 10 k.toNat⟩
  else ⟨r.num * Nat.pow 10 (-k).toNat, r.den⟩

/-- The multiple of `10 ^ k` nearest to a number among those that read back as it, if there is
one. Numbers halfway to a neighbour read back if the mantissa is even. -/
def multiple? (b : Binary) (k : Int) : Option Nat :=
  let scaled (n : Nat) := (Ratio.ofBinary n (b.exponent - 2)).overTen k
  let value := scaled (4 * b.mantissa)
  let low := scaled (4 * b.mantissa - if b.isPower then 1 else 2)
  let high := scaled (4 * b.mantissa + 2)
  let even := b.mantissa % 2 = 0
  let readsBack (n : Nat) : Bool :=
    (low.num < n * low.den || even && low.num = n * low.den) &&
      (n * high.den < high.num || even && n * high.den = high.num)
  let below := value.num / value.den
  let above := below + 1
  if readsBack below then
    if readsBack above && above * value.den - value.num < value.num - below * value.den then
      some above
    else some below
  else if readsBack above then some above
  else none

/-- The digits of a number with the fewest of them that read back: an integer times `10 ^ k`, for
the greatest `k` from `top` down that has one. -/
def shortestFrom (b : Binary) : Nat → Int → Nat × Int
  | 0, k => (0, k)
  | steps + 1, k =>
    match multiple? b k with
    | some n => (n, k)
    | none => shortestFrom b steps (k - 1)

/-- An integer times `10 ^ k` without an exponent. -/
def positional (n : Nat) (k : Int) : List Char :=
  if 0 ≤ k then digits (n * Nat.pow 10 k.toNat)
  else
    let places := (-k).toNat
    digits (n / Nat.pow 10 places) ++ '.' :: padded places n

/-- A 64-bit number in the fewest digits that read back, without an exponent. -/
def shortest (x : Float) : List Char :=
  let bits := x.toBits.toNat
  let sign := if 1 <<< 63 ≤ bits then ['-'] else []
  match Binary.ofBits? (bits % (1 <<< 63)) with
  | some b =>
    let (n, k) := shortestFrom b 650 309
    sign ++ positional n k
  | none =>
    if bits % (1 <<< 63) = 0 then sign ++ ['0']
    else if bits % (1 <<< 52) = 0 then sign ++ ['i', 'n', 'f']
    else ['N', 'a', 'N']

/-- A number that is not negative, rounded to a number of places; a half goes to the even
neighbour. -/
def fixed (places : Nat) (x : Float) : List Char :=
  let r := match Binary.ofBits? (x.toBits.toNat % (1 <<< 63)) with
    | some b => Ratio.ofBinary b.mantissa b.exponent
    | none => ⟨0, 1⟩
  let num := r.num * Nat.pow 10 places
  let down := num / r.den
  let rest := num % r.den
  let n := if r.den < 2 * rest || r.den = 2 * rest && down % 2 = 1 then down + 1 else down
  if places = 0 then digits n else digits (n / Nat.pow 10 places) ++ '.' :: padded places n

end Tollgate.Decimal
