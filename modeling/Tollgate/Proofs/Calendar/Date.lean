import Mathlib.Tactic.ByContra
import Mathlib.Tactic.SplitIfs
import Tollgate.Calendar.Date
import Tollgate.Proofs.Text.Decimal

/-!
Days are written without confusion: the last two digits are the day, the two before them the month,
and all that stands in front is the year, whose sign tells apart what its digits do not.
-/

namespace Tollgate

namespace Date

/-- A year in the range of four digits has no sign. -/
theorem yearChars_ne_cons {year : Int} (h : 0 ≤ year ∧ year ≤ 9999) {c : Char}
    (hSign : Decimal.digit? c = none) (cs : List Char) : yearChars year ≠ c :: cs := by
  intro hYear
  have hMem : c ∈ Decimal.padded 4 year.toNat := by
    rw [yearChars, if_pos h] at hYear
    rw [hYear]
    exact List.mem_cons_self
  have hDigit := Decimal.padded_isDigit _ _ c hMem
  rw [hSign] at hDigit
  cases hDigit

theorem yearChars_injective {year year' : Int} (h : yearChars year = yearChars year') :
    year = year' := by
  by_cases hShort : 0 ≤ year ∧ year ≤ 9999
  · by_cases hShort' : 0 ≤ year' ∧ year' ≤ 9999
    · rw [yearChars, yearChars, if_pos hShort, if_pos hShort'] at h
      have hValue := congrArg Decimal.value h
      rw [Decimal.value_padded, Decimal.value_padded] at hValue
      · omega
      · show year'.toNat < 10000
        omega
      · show year.toNat < 10000
        omega
    · rw [yearChars.eq_1 year', if_neg hShort'] at h
      split_ifs at h
      · exact absurd h (yearChars_ne_cons hShort (by decide) _)
      · exact absurd h (yearChars_ne_cons hShort (by decide) _)
  · by_cases hShort' : 0 ≤ year' ∧ year' ≤ 9999
    · rw [yearChars.eq_1 year, if_neg hShort] at h
      split_ifs at h
      · exact absurd h.symm (yearChars_ne_cons hShort' (by decide) _)
      · exact absurd h.symm (yearChars_ne_cons hShort' (by decide) _)
    · rw [yearChars, yearChars, if_neg hShort, if_neg hShort'] at h
      obtain ⟨hSign, hDigits⟩ := List.cons_eq_cons.1 h
      have hValue := congrArg Decimal.value hDigits
      rw [Decimal.value_atLeast, Decimal.value_atLeast] at hValue
      -- Years of one size are told apart by their signs.
      split_ifs at hSign
      · omega
      · exact absurd hSign (by decide)
      · exact absurd hSign (by decide)
      · omega

theorem monthLength_le (year : Int) (month : Nat) : monthLength year month ≤ 31 := by
  unfold monthLength
  split_ifs <;> omega

theorem month_le (d : Date) : d.month ≤ 12 := by
  obtain ⟨_, _, hFirst, hLast⟩ := d.isDay
  by_contra hMonth
  have hNone : monthLength d.year d.month = 0 := by
    unfold monthLength
    split_ifs <;> omega
  omega

/-- Two days are not written alike. -/
theorem chars_injective {d d' : Date} (h : d.chars = d'.chars) : d = d' := by
  have hDay : ∀ d : Date, d.day ≤ 31 := fun d => Nat.le_trans d.isDay.2.2.2 (monthLength_le _ _)
  have hValue : ∀ n ≤ 31, Decimal.value (Decimal.padded 2 n) = n := fun n hn =>
    Decimal.value_padded (Nat.lt_of_le_of_lt hn (by decide))
  unfold chars at h
  obtain ⟨hFront, hLast⟩ := List.append_inj' h (by simp [Decimal.length_padded])
  obtain ⟨hYear, hMiddle⟩ := List.append_inj' hFront (by simp [Decimal.length_padded])
  have hMonth := congrArg Decimal.value (List.cons_eq_cons.1 hMiddle).2
  have hDays := congrArg Decimal.value (List.cons_eq_cons.1 hLast).2
  rw [hValue _ (Nat.le_trans d.month_le (by decide)),
    hValue _ (Nat.le_trans d'.month_le (by decide))] at hMonth
  rw [hValue _ (hDay d), hValue _ (hDay d')] at hDays
  obtain ⟨year, month, day, _⟩ := d
  obtain ⟨year', month', day', _⟩ := d'
  obtain rfl : year = year' := yearChars_injective hYear
  obtain rfl : month = month' := hMonth
  obtain rfl : day = day' := hDays
  rfl

end Date

end Tollgate
