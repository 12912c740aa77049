import Mathlib.Tactic.SplitIfs
import Tollgate.Text.Decimal
import Tollgate.Text.Utf8

/-!
What is written is read back. The digits of a number denote it, and a reader with a bound accepts
them exactly up to that bound; so a signed 64-bit reader accepts the text of exactly the integers in
its range, also where that text has come through bytes.
-/

namespace Tollgate

namespace Decimal

theorem digit?_digitChar {d : Nat} (h : d < 10) : digit? (digitChar d) = some d := by
  have hAll : ∀ d < 10, digit? (digitChar d) = some d := by decide
  exact hAll d h

theorem digits_of_lt {n : Nat} (h : n < 10) : digits n = [digitChar n] := by
  rw [digits, if_pos h]

theorem digits_of_ge {n : Nat} (h : 10 ≤ n) :
    digits n = digits (n / 10) ++ [digitChar (n % 10)] := by
  rw [digits, if_neg (Nat.not_lt.2 h)]

/-- Every character of a number is a digit. -/
theorem digits_isDigit (n : Nat) : ∀ c ∈ digits n, (digit? c).isSome := by
  induction n using digits.induct with
  | case1 n h =>
      rw [digits_of_lt h]
      intro c hc
      rw [List.mem_singleton.1 hc, digit?_digitChar h]
      rfl
  | case2 n h ih =>
      rw [digits_of_ge (Nat.not_lt.1 h)]
      intro c hc
      rcases List.mem_append.1 hc with hc | hc
      · exact ih c hc
      · rw [List.mem_singleton.1 hc, digit?_digitChar (Nat.mod_lt n (by decide))]
        rfl

theorem toNat_lt_of_digit {c : Char} (h : (digit? c).isSome) : c.toNat < 128 := by
  unfold digit? at h
  split_ifs at h with hRange
  · have hNine : c.toNat ≤ '9'.toNat := hRange.2
    exact Nat.lt_of_le_of_lt hNine (by decide)
  · cases h

theorem digits_ne_nil (n : Nat) : digits n ≠ [] := by
  rw [digits]
  split <;> simp

/-- The digits of a number do not start with zero unless it is zero itself. -/
theorem head?_digits {n : Nat} (h : 0 < n) : (digits n).head? ≠ some '0' := by
  induction n using digits.induct with
  | case1 n hSmall =>
      have hAll : ∀ n < 10, 0 < n → digitChar n ≠ '0' := by decide
      rw [digits_of_lt hSmall, List.head?_cons]
      exact fun hZero => hAll n hSmall h (Option.some.inj hZero)
  | case2 n hLarge ih =>
      obtain ⟨d, ds, hDigits⟩ := List.exists_cons_of_ne_nil (digits_ne_nil (n / 10))
      have hFront := ih (by omega)
      rw [hDigits] at hFront
      rw [digits_of_ge (Nat.not_lt.1 hLarge), hDigits]
      exact hFront

/-- Reading goes on where it stopped. -/
theorem accumulate_append (limit acc : Nat) (cs ds : List Char) :
    accumulate limit acc (cs ++ ds) =
      (accumulate limit acc cs).bind fun n => accumulate limit n ds := by
  induction cs generalizing acc with
  | nil => rfl
  | cons c cs ih =>
      simp only [List.cons_append, accumulate]
      cases digit? c with
      | none => rfl
      | some d =>
          simp only
          split_ifs
          · exact ih _
          · rfl

theorem accumulate_digitChar (limit acc : Nat) {d : Nat} (h : d < 10) :
    accumulate limit acc [digitChar d] =
      if 10 * acc + d ≤ limit then .ok (10 * acc + d) else .error .tooLarge := by
  simp only [accumulate, digit?_digitChar h]

/-- The digits of a number denote it. A reader accepts them up to its limit, and no digit of a
larger number is taken for a stray letter. -/
theorem accumulate_digits (limit n : Nat) :
    accumulate limit 0 (digits n) = if n ≤ limit then .ok n else .error .tooLarge := by
  induction n using digits.induct with
  | case1 n h =>
      rw [digits_of_lt h, accumulate_digitChar limit 0 h, Nat.mul_zero, Nat.zero_add]
  | case2 n h ih =>
      have hDigit : n % 10 < 10 := Nat.mod_lt n (by decide)
      have hSum : 10 * (n / 10) + n % 10 = n := Nat.div_add_mod n 10
      rw [digits_of_ge (Nat.not_lt.1 h), accumulate_append, ih]
      by_cases hHead : n / 10 ≤ limit
      · rw [if_pos hHead, Except.bind, accumulate_digitChar limit _ hDigit, hSum]
      · have hLarge : ¬n ≤ limit := fun hn => hHead (Nat.le_trans (Nat.div_le_self n 10) hn)
        rw [if_neg hHead, if_neg hLarge]
        rfl

/-- A text that starts with a digit has no sign. -/
theorem readInt64?_of_digit {c : Char} (hDigit : (digit? c).isSome) (cs : List Char) :
    readInt64? (c :: cs) = (accumulate int64Max.natAbs 0 (c :: cs)).toOption.map Int.ofNat := by
  have hMinus : c ≠ '-' := by
    rintro rfl
    revert hDigit
    decide
  have hPlus : c ≠ '+' := by
    rintro rfl
    revert hDigit
    decide
  unfold readInt64?
  split <;> simp_all

theorem readInt64?_digits (n : Nat) :
    readInt64? (digits n) = if n ≤ int64Max.natAbs then some (n : Int) else none := by
  obtain ⟨c, cs, hDigits⟩ := List.exists_cons_of_ne_nil (digits_ne_nil n)
  have hDigit := digits_isDigit n c (hDigits ▸ List.mem_cons_self)
  rw [hDigits, readInt64?_of_digit hDigit, ← hDigits, accumulate_digits]
  split_ifs <;> rfl

theorem readInt64?_minus_digits (n : Nat) :
    readInt64? ('-' :: digits n) = if n ≤ int64Min.natAbs then some (-(n : Int)) else none := by
  have hRead : readInt64? ('-' :: digits n) =
      (accumulate int64Min.natAbs 0 (digits n)).toOption.map fun n => -(n : Int) := by
    obtain ⟨c, cs, hDigits⟩ := List.exists_cons_of_ne_nil (digits_ne_nil n)
    rw [hDigits]
    rfl
  rw [hRead, accumulate_digits]
  split_ifs <;> rfl

/-- Exactly the integers in the range of 64 bits are read back from their text. -/
theorem readInt64?_signed (i : Int) :
    readInt64? (signed i) = if int64Min ≤ i ∧ i ≤ int64Max then some i else none := by
  unfold signed
  split_ifs with hNegative hRange hRange
  · have hBound : i.natAbs ≤ int64Min.natAbs := by
      unfold int64Min at hRange ⊢
      omega
    rw [readInt64?_minus_digits, if_pos hBound]
    congr 1
    omega
  · have hBound : ¬i.natAbs ≤ int64Min.natAbs := by
      unfold int64Min int64Max at *
      omega
    rw [readInt64?_minus_digits, if_neg hBound]
  · have hBound : i.natAbs ≤ int64Max.natAbs := by
      unfold int64Max at hRange ⊢
      omega
    rw [readInt64?_digits, if_pos hBound]
    congr 1
    omega
  · have hBound : ¬i.natAbs ≤ int64Max.natAbs := by
      unfold int64Min int64Max at *
      omega
    rw [readInt64?_digits, if_neg hBound]

theorem signed_ascii (i : Int) : ∀ c ∈ signed i, c.toNat < 128 := by
  have hDigits : ∀ c ∈ digits i.natAbs, c.toNat < 128 :=
    fun c hc => toNat_lt_of_digit (digits_isDigit _ c hc)
  unfold signed
  split
  · intro c hc
    rcases List.mem_cons.1 hc with rfl | hc
    · decide
    · exact hDigits c hc
  · exact hDigits

/-- Nothing is read past the limit. -/
theorem le_of_accumulate {limit acc n : Nat} {cs : List Char} (hAcc : acc ≤ limit)
    (h : accumulate limit acc cs = .ok n) : n ≤ limit := by
  induction cs generalizing acc with
  | nil => exact Except.ok.inj h ▸ hAcc
  | cons c cs ih =>
      simp only [accumulate] at h
      cases hDigit : digit? c with
      | none =>
          rw [hDigit] at h
          cases h
      | some d =>
          simp only [hDigit] at h
          split_ifs at h with hNext
          exact ih hNext h

/-- A signed reader yields only integers in the range of 64 bits. -/
theorem range_of_readInt64? {cs : List Char} {n : Int} (h : readInt64? cs = some n) :
    int64Min ≤ n ∧ n ≤ int64Max := by
  have hPositive {ds : List Char}
      (hSome : (accumulate int64Max.natAbs 0 ds).toOption.map Int.ofNat = some n) :
      int64Min ≤ n ∧ n ≤ int64Max := by
    cases hRead : accumulate int64Max.natAbs 0 ds with
    | error e => rw [hRead] at hSome; cases hSome
    | ok m =>
        have hLimit := le_of_accumulate (Nat.zero_le _) hRead
        rw [hRead] at hSome
        obtain rfl := Option.some.inj hSome
        unfold int64Min int64Max at *
        simp only [Int.ofNat_eq_natCast]
        omega
  unfold readInt64? at h
  split at h
  · cases h
  · cases h
  · cases h
  · next ds _ =>
      cases hRead : accumulate int64Min.natAbs 0 ds with
      | error e => rw [hRead] at h; cases h
      | ok m =>
          have hLimit := le_of_accumulate (Nat.zero_le _) hRead
          rw [hRead] at h
          obtain rfl : -(m : Int) = n := Option.some.inj h
          unfold int64Min int64Max at *
          omega
  · exact hPositive h
  · exact hPositive h

theorem value_append (cs : List Char) (c : Char) :
    value (cs ++ [c]) = 10 * value cs + (digit? c).getD 0 := by
  simp [value]

theorem value_append_digitChar (cs : List Char) {d : Nat} (h : d < 10) :
    value (cs ++ [digitChar d]) = 10 * value cs + d := by
  rw [value_append, digit?_digitChar h]
  rfl

/-- The digits of a number denote it. -/
theorem value_digits (n : Nat) : value (digits n) = n := by
  induction n using digits.induct with
  | case1 n h =>
      rw [digits_of_lt h]
      exact (value_append_digitChar [] h).trans (Nat.zero_add n)
  | case2 n h ih =>
      rw [digits_of_ge (Nat.not_lt.1 h), value_append_digitChar _ (Nat.mod_lt n (by decide)), ih]
      omega

/-- A number is read back from so many digits if they are enough for it. -/
theorem value_padded {width n : Nat} (h : n < Nat.pow 10 width) : value (padded width n) = n := by
  induction width generalizing n with
  | zero =>
      obtain rfl : n = 0 := Nat.lt_one_iff.1 h
      rfl
  | succ width ih =>
      have hFront : n / 10 < Nat.pow 10 width := by
        apply Nat.div_lt_of_lt_mul
        rw [Nat.mul_comm]
        exact h
      rw [padded, value_append_digitChar _ (Nat.mod_lt n (by decide)), ih hFront]
      omega

theorem length_padded (width n : Nat) : (padded width n).length = width := by
  induction width generalizing n with
  | zero => rfl
  | succ width ih => simp [padded, ih]

/-- Zeros in front do not count. -/
theorem value_atLeast (width n : Nat) : value (atLeast width n) = n := by
  have hZeros (k : Nat) (ds : List Char) : value (List.replicate k '0' ++ ds) = value ds := by
    induction k with
    | zero => rfl
    | succ k ih => exact ih
  unfold atLeast
  rw [hZeros, value_digits]

theorem padded_isDigit (width n : Nat) : ∀ c ∈ padded width n, (digit? c).isSome := by
  induction width generalizing n with
  | zero => simp [padded]
  | succ width ih =>
      intro c hc
      rcases List.mem_append.1 hc with hc | hc
      · exact ih _ c hc
      · rw [List.mem_singleton.1 hc, digit?_digitChar (Nat.mod_lt n (by decide))]
        rfl

end Decimal

namespace Utf8

/-- An ASCII character is one byte. -/
theorem encodeChar_of_ascii {c : Char} (h : c.toNat < 128) :
    String.utf8EncodeChar c = [UInt8.ofNat c.toNat] := by
  unfold String.utf8EncodeChar
  exact if_pos (Nat.le_of_lt_succ h)

/-- ASCII text comes through bytes as it is. -/
theorem parts_encode_of_ascii {cs : List Char} (h : ∀ c ∈ cs, c.toNat < 128) :
    parts (encode cs) = cs.map some := by
  induction cs with
  | nil => rfl
  | cons c cs ih =>
      have hAscii : c.toNat < 128 := h c List.mem_cons_self
      have hByte : (UInt8.ofNat c.toNat).toNat = c.toNat :=
        Nat.mod_eq_of_lt (Nat.lt_trans hAscii (by decide))
      have hRest := ih fun d hd => h d (List.mem_cons_of_mem c hd)
      unfold parts encode at hRest ⊢
      rw [List.flatMap_cons, encodeChar_of_ascii hAscii, List.singleton_append]
      simp only [Decoder.run, Decoder.step, hByte, Decoder.start, if_pos hAscii]
      rw [hRest, Char.ofNat_toNat]
      rfl

theorem decode?_encode_of_ascii {cs : List Char} (h : ∀ c ∈ cs, c.toNat < 128) :
    decode? (encode cs) = some cs := by
  rw [decode?, parts_encode_of_ascii h]
  clear h
  induction cs with
  | nil => rfl
  | cons c cs ih =>
      rw [List.map_cons, List.mapM_cons, ih]
      rfl

end Utf8

end Tollgate
