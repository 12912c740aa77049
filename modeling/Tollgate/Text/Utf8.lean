/-!
Text as bytes in UTF-8. Bytes that are no text are decoded part by part: each run of bytes that
starts a character and does not end it, or that starts none, counts as one broken character.
-/

namespace Tollgate

/-- A string of bytes. -/
abbrev Bytes := List UInt8

namespace Utf8

/-- The bytes of characters. -/
def encode (cs : List Char) : Bytes :=
  cs.flatMap String.utf8EncodeChar

/-- Where decoding stands: between characters, or inside one with `left` bytes to come, the next of
them between `low` and `high`. -/
inductive Decoder
  | between
  | inside (left low high value : Nat)
deriving DecidableEq, Repr

namespace Decoder

/-- Reads the first byte of a character. -/
def start (b : Nat) : List (Option Char) × Decoder :=
  if b < 0x80 then ([some (Char.ofNat b)], between)
  else if 0xC2 ≤ b ∧ b < 0xE0 then ([], inside 1 0x80 0xBF (b - 0xC0))
  else if b = 0xE0 then ([], inside 2 0xA0 0xBF 0)
  else if b = 0xED then ([], inside 2 0x80 0x9F 0xD)
  else if 0xE1 ≤ b ∧ b < 0xF0 then ([], inside 2 0x80 0xBF (b - 0xE0))
  else if b = 0xF0 then ([], inside 3 0x90 0xBF 0)
  else if 0xF1 ≤ b ∧ b < 0xF4 then ([], inside 3 0x80 0xBF (b - 0xF0))
  else if b = 0xF4 then ([], inside 3 0x80 0x8F 4)
  else ([none], between)

/-- Reads a byte: what ends with it, a character or a broken one, and where decoding stands then. A
byte that cannot continue a character starts the next one. -/
def step : Decoder → Nat → List (Option Char) × Decoder
  | between, b => start b
  | inside left low high value, b =>
    if low ≤ b ∧ b ≤ high then
      if left ≤ 1 then ([some (Char.ofNat (64 * value + b % 64))], between)
      else ([], inside (left - 1) 0x80 0xBF (64 * value + b % 64))
    else
      let (done, next) := start b
      (none :: done, next)

/-- Reads bytes to their end. -/
def run : Decoder → Bytes → List (Option Char)
  | between, [] => []
  | inside .., [] => [none]
  | d, b :: rest =>
    let (done, next) := d.step b.toNat
    done ++ run next rest

end Decoder

/-- The characters of bytes, the broken ones as `none`. -/
def parts (bs : Bytes) : List (Option Char) :=
  Decoder.between.run bs

/-- The characters of bytes, if none is broken. -/
def decode? (bs : Bytes) : Option (List Char) :=
  (parts bs).mapM id

/-- The characters of bytes, with the replacement character for each broken one. -/
def decodeLossy (bs : Bytes) : List Char :=
  (parts bs).map (·.getD '\uFFFD')

end Utf8

end Tollgate
