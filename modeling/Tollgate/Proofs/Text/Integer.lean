import Tollgate.Proofs.Text.Ascii
import Tollgate.Proofs.Text.Numeral

/-!
The numerals that a signed reader accepts: a sign or none, and then ASCII digits, at least one,
whose integer is in the range of 64 bits. Among the numerals of an integer the one that is written
is the plain one: without a plus sign, and without zeros in front.
-/

namespace Tollgate.Decimal

/-- The texts of an integer. -/
inductive Denotes : List Char → Int → Prop
  | natural {cs : List Char} {n : Nat} (h : Numeral cs n) : Denotes cs n
  | negative {ds : List Char} (hSome : ds ≠ []) (hDigits : ∀ c ∈ ds, isDigit c) :
      Denotes ('-' :: ds) (-(value ds : Int))

/-- The plain text of an integer: nothing but digits and perhaps a minus sign, and zero in front
only where it is the only digit. -/
structure Canonical (cs : List Char) (i : Int) : Prop where
  denotes : Denotes cs i
  plain : ∀ c ∈ cs, isDigit c ∨ c = '-'
  leading : ∀ ds, cs = '0' :: ds ∨ cs = '-' :: '0' :: ds → cs = ['0']

/-- A text without a minus sign is read like that of a natural number. -/
theorem readInt64?_of_not_minus {cs : List Char} (h : cs.head? ≠ some '-') :
    readInt64? cs = (readNat int64Max.natAbs cs).toOption.map Int.ofNat := by
  unfold readInt64?
  split
  · rfl
  · rfl
  · exact absurd rfl h
  · exact absurd rfl h
  · next ds hSome =>
      have hRead : readNat int64Max.natAbs ('+' :: ds) = accumulate int64Max.natAbs 0 ds := by
        cases ds with
        | nil => exact (hSome rfl).elim
        | cons d ds => rfl
      rw [hRead]
  · next hSome hPlus _ _ hSign =>
      unfold readNat
      split <;> simp_all

theorem readInt64?_minus {ds : List Char} (h : ds ≠ []) : readInt64? ('-' :: ds) =
    (accumulate int64Min.natAbs 0 ds).toOption.map fun n => -(n : Int) := by
  cases ds with
  | nil => exact absurd rfl h
  | cons d ds => rfl

theorem ne_minus_of_isDigit {c : Char} (h : isDigit c) : c ≠ '-' := by
  rintro rfl
  revert h
  decide

theorem not_minus_of_numeral {cs : List Char} {n : Nat} (h : Numeral cs n) :
    cs.head? ≠ some '-' := by
  obtain ⟨ds, rfl | rfl, hSome, hDigits, -⟩ := h
  · exact fun hHead => ne_minus_of_isDigit (hDigits '-' (List.mem_of_mem_head? hHead)) rfl
  · simp

/-- What a signed reader reads from a text is an integer that the text denotes. -/
theorem denotes_of_readInt64? {cs : List Char} {i : Int} (h : readInt64? cs = some i) :
    Denotes cs i := by
  by_cases hSign : cs.head? = some '-'
  · obtain ⟨ds, rfl⟩ := List.head?_eq_some_iff.1 hSign
    have hSome : ds ≠ [] := by
      rintro rfl
      cases h
    rw [readInt64?_minus hSome] at h
    cases hRead : accumulate int64Min.natAbs 0 ds with
    | error e => rw [hRead] at h; cases h
    | ok n =>
        obtain ⟨hDigits, hValue, -⟩ := (accumulate_eq_ok_iff (Nat.zero_le _)).1 hRead
        rw [hRead] at h
        obtain rfl := Option.some.inj h
        rw [← hValue]
        exact .negative hSome hDigits
  · rw [readInt64?_of_not_minus hSign] at h
    cases hRead : readNat int64Max.natAbs cs with
    | error e => rw [hRead] at h; cases h
    | ok n =>
        rw [hRead] at h
        obtain rfl := Option.some.inj h
        exact .natural (readNat_eq_ok_iff.1 hRead).1

/-- An integer in the range of 64 bits is read from every text that denotes it. -/
theorem readInt64?_of_denotes {cs : List Char} {i : Int} (h : Denotes cs i) (hLow : int64Min ≤ i)
    (hHigh : i ≤ int64Max) : readInt64? cs = some i := by
  cases h with
  | @natural _ n hNumeral =>
      have hLimit : n ≤ int64Max.natAbs := by
        unfold int64Max at hHigh ⊢
        omega
      rw [readInt64?_of_not_minus (not_minus_of_numeral hNumeral),
        readNat_eq_ok_iff.2 ⟨hNumeral, hLimit⟩]
      rfl
  | @negative ds hSome hDigits =>
      have hLimit : value ds ≤ int64Min.natAbs := by
        unfold int64Min at hLow ⊢
        omega
      rw [readInt64?_minus hSome,
        (accumulate_eq_ok_iff (Nat.zero_le _)).2 ⟨hDigits, rfl, hLimit⟩]
      rfl

/-- A signed reader accepts exactly the numerals of the integers in the range of 64 bits. -/
theorem readInt64?_eq_some_iff {cs : List Char} {i : Int} :
    readInt64? cs = some i ↔ Denotes cs i ∧ int64Min ≤ i ∧ i ≤ int64Max :=
  ⟨fun h => ⟨denotes_of_readInt64? h, range_of_readInt64? h⟩,
    fun ⟨hDenotes, hLow, hHigh⟩ => readInt64?_of_denotes hDenotes hLow hHigh⟩

namespace Denotes

variable {cs : List Char} {i : Int}

/-- A numeral is made of ASCII characters, none of which is white space. -/
theorem ascii (h : Denotes cs i) : ∀ c ∈ cs, c.toNat < 128 ∧ Text.isBlank c = false := by
  have hDigit {c : Char} (hc : isDigit c) : c.toNat < 128 ∧ Text.isBlank c = false :=
    ⟨toNat_lt_of_digit hc, isBlank_of_isDigit hc⟩
  cases h with
  | natural h =>
      obtain ⟨ds, rfl | rfl, -, hDigits, -⟩ := h
      · exact fun c hc => hDigit (hDigits c hc)
      · rw [List.forall_mem_cons]
        exact ⟨by decide, fun c hc => hDigit (hDigits c hc)⟩
  | negative _ hDigits =>
      rw [List.forall_mem_cons]
      exact ⟨by decide, fun c hc => hDigit (hDigits c hc)⟩

theorem trimmed (h : Denotes cs i) : Text.Trimmed cs where
  head c hc := (h.ascii c (List.mem_of_mem_head? hc)).2
  last c hc := (h.ascii c (List.mem_of_getLast? hc)).2

end Denotes

/-- Zero in front is the only digit. -/
theorem eq_zero_of_digits {n : Nat} {ds : List Char} (h : digits n = '0' :: ds) : n = 0 := by
  apply Nat.eq_zero_of_not_pos
  intro hPos
  apply head?_digits hPos
  rw [h]
  rfl

/-- An integer is written plainly. -/
theorem canonical_signed (i : Int) : Canonical (signed i) i := by
  have hDigits := digits_isDigit i.natAbs
  unfold signed
  split_ifs with hNegative
  · refine ⟨?_, ?_, ?_⟩
    · have hValue : -((value (digits i.natAbs) : Nat) : Int) = i := by
        rw [value_digits]
        omega
      have hDenotes := Denotes.negative (digits_ne_nil i.natAbs) hDigits
      rwa [hValue] at hDenotes
    · rw [List.forall_mem_cons]
      exact ⟨.inr rfl, fun c hc => .inl (hDigits c hc)⟩
    · rintro ds (hZero | hZero)
      · cases hZero
      · have hNone := eq_zero_of_digits (List.cons_eq_cons.1 hZero).2
        omega
  · refine ⟨?_, fun c hc => .inl (hDigits c hc), ?_⟩
    · have hDenotes := Denotes.natural (numeral_digits i.natAbs)
      rwa [Int.natAbs_of_nonneg (by omega)] at hDenotes
    · rintro ds (hZero | hZero)
      · rw [eq_zero_of_digits hZero]
        exact digits_of_lt (by decide)
      · exact absurd rfl (ne_minus_of_isDigit (hDigits '-' (hZero ▸ List.mem_cons_self)))

end Tollgate.Decimal
