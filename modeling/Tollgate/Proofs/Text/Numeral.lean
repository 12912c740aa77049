import Tollgate.Proofs.Text.Blank
import Tollgate.Proofs.Text.Decimal

/-!
The numerals that an unsigned reader accepts: a plus sign or none, and then ASCII digits, at least
one, whose number is within the limit. Zeros in front do no harm.
-/

namespace Tollgate.Decimal

/-- The texts of a number. -/
def Numeral (cs : List Char) (n : Nat) : Prop :=
  ∃ ds, (cs = ds ∨ cs = '+' :: ds) ∧ ds ≠ [] ∧ (∀ c ∈ ds, isDigit c) ∧ value ds = n

theorem numeral_digits (n : Nat) : Numeral (digits n) n :=
  ⟨digits n, .inl rfl, digits_ne_nil n, digits_isDigit n, value_digits n⟩

/-- The number that digits denote behind those read before. -/
def valueAfter (acc : Nat) (ds : List Char) : Nat :=
  ds.foldl (fun n c => 10 * n + (digit? c).getD 0) acc

theorem le_valueAfter (acc : Nat) (ds : List Char) : acc ≤ valueAfter acc ds := by
  induction ds generalizing acc with
  | nil => exact Nat.le_refl acc
  | cons c ds ih =>
      refine Nat.le_trans ?_ (ih (10 * acc + (digit? c).getD 0))
      omega

/-- Reading yields the number of the digits if all are digits and the number is within the limit. -/
theorem accumulate_eq_ok_iff {limit acc n : Nat} {cs : List Char} (hAcc : acc ≤ limit) :
    accumulate limit acc cs = .ok n ↔
      (∀ c ∈ cs, isDigit c) ∧ valueAfter acc cs = n ∧ n ≤ limit := by
  induction cs generalizing acc with
  | nil =>
      constructor
      · intro h
        obtain rfl := Except.ok.inj h
        exact ⟨List.forall_mem_nil _, rfl, hAcc⟩
      · rintro ⟨-, rfl, -⟩
        rfl
  | cons c cs ih =>
      cases hDigit : digit? c with
      | none =>
          have hNot : isDigit c = false := by rw [isDigit, hDigit]; rfl
          simp [accumulate, hDigit, hNot]
      | some d =>
          have hIs : isDigit c = true := by rw [isDigit, hDigit]; rfl
          have hValue : valueAfter acc (c :: cs) = valueAfter (10 * acc + d) cs := by
            rw [valueAfter, List.foldl_cons, hDigit]
            rfl
          simp only [accumulate, hDigit, List.forall_mem_cons, hIs, true_and, hValue]
          split_ifs with hNext
          · exact ih hNext
          · constructor
            · intro h
              cases h
            · rintro ⟨-, rfl, hLimit⟩
              exact absurd (Nat.le_trans (le_valueAfter _ cs) hLimit) hNext

/-- A reader with a limit accepts exactly the numerals of the numbers within it. -/
theorem readNat_eq_ok_iff {limit n : Nat} {cs : List Char} :
    readNat limit cs = .ok n ↔ Numeral cs n ∧ n ≤ limit := by
  have hRead {ds : List Char} : accumulate limit 0 ds = .ok n ↔
      (∀ c ∈ ds, isDigit c) ∧ value ds = n ∧ n ≤ limit :=
    accumulate_eq_ok_iff (Nat.zero_le limit)
  have hPlus {ds : List Char} : ¬∀ c ∈ '+' :: ds, isDigit c := fun h =>
    absurd (h '+' List.mem_cons_self) (by decide)
  unfold readNat
  split
  · simp [Numeral]
  · constructor
    · intro h
      cases h
    · rintro ⟨⟨ds, rfl | hSign, hSome, hDigits, -⟩, -⟩
      · exact (hPlus hDigits).elim
      · exact (hSome (List.cons_eq_cons.1 hSign).2.symm).elim
  · next ds hSome =>
      rw [hRead]
      constructor
      · rintro ⟨hDigits, hValue, hLimit⟩
        exact ⟨⟨ds, .inr rfl, fun h => hSome (h ▸ rfl), hDigits, hValue⟩, hLimit⟩
      · rintro ⟨⟨es, rfl | hSign, -, hDigits, hValue⟩, hLimit⟩
        · exact (hPlus hDigits).elim
        · obtain rfl := (List.cons_eq_cons.1 hSign).2
          exact ⟨hDigits, hValue, hLimit⟩
  · next hSome _ hNoSign =>
      rw [hRead]
      constructor
      · rintro ⟨hDigits, hValue, hLimit⟩
        exact ⟨⟨cs, .inl rfl, hSome, hDigits, hValue⟩, hLimit⟩
      · rintro ⟨⟨es, rfl | rfl, -, hDigits, hValue⟩, hLimit⟩
        · exact ⟨hDigits, hValue, hLimit⟩
        · exact (hNoSign es rfl).elim

/-- So does a reader of a type whose members are the numbers within the limit. -/
theorem map_readNat_eq_ok_iff {α : Type} {limit : Nat} {ofNat : Nat → α} {toNat : α → Nat}
    (hBound : ∀ a, toNat a ≤ limit) (hOf : ∀ a, ofNat (toNat a) = a)
    (hTo : ∀ n ≤ limit, toNat (ofNat n) = n) {cs : List Char} {a : α} :
    (readNat limit cs).map ofNat = .ok a ↔ Numeral cs (toNat a) := by
  constructor
  · intro h
    cases hRead : readNat limit cs with
    | error e => rw [hRead] at h; cases h
    | ok n =>
        obtain ⟨hNumeral, hLimit⟩ := readNat_eq_ok_iff.1 hRead
        rw [hRead] at h
        obtain rfl : ofNat n = a := Except.ok.inj h
        rwa [hTo n hLimit]
  · intro h
    rw [readNat_eq_ok_iff.2 ⟨h, hBound a⟩, Except.map, hOf]

theorem readUInt16_eq_ok_iff {cs : List Char} {n : UInt16} :
    readUInt16 cs = .ok n ↔ Numeral cs n.toNat :=
  map_readNat_eq_ok_iff (fun m => Nat.le_pred_of_lt m.toNat_lt) (fun _ => UInt16.ofNat_toNat)
    fun _ hm => UInt16.toNat_ofNat_of_lt' (Nat.lt_of_le_pred (by decide) hm)

theorem readUInt64_eq_ok_iff {cs : List Char} {n : UInt64} :
    readUInt64 cs = .ok n ↔ Numeral cs n.toNat :=
  map_readNat_eq_ok_iff (fun m => Nat.le_pred_of_lt m.toNat_lt) (fun _ => UInt64.ofNat_toNat)
    fun _ hm => UInt64.toNat_ofNat_of_lt' (Nat.lt_of_le_pred (by decide) hm)

theorem isBlank_of_isDigit {c : Char} (h : isDigit c) : Text.isBlank c = false := by
  unfold isDigit digit? at h
  split_ifs at h with hRange
  · have hLow : 48 ≤ c.toNat := hRange.1
    have hHigh : c.toNat ≤ 57 := hRange.2
    simp only [Text.isBlank, Bool.or_eq_false_iff, Bool.and_eq_false_iff, decide_eq_false_iff_not,
      beq_eq_false_iff_ne]
    omega
  · cases h

theorem trim_digits (n : Nat) : Text.trim (digits n) = digits n :=
  Text.trim_of_forall fun c hc => isBlank_of_isDigit (digits_isDigit n c hc)

end Tollgate.Decimal
