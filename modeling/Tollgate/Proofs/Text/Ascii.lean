import Tollgate.Proofs.Text.Decimal

/-!
Bytes whose text is ASCII. No sequence of several bytes stands for an ASCII character, so that the
bytes of such a text are its characters.
-/

namespace Tollgate.Utf8

namespace Decoder

/-- Whatever bytes come within the bounds, they end a character beyond ASCII. -/
def Beyond : (left low high value : Nat) → Prop
  | 0, _, _, _ => False
  | 1, low, high, value => ∀ b, low ≤ b → b ≤ high →
    (64 * value + b % 64).isValidChar ∧ 128 ≤ 64 * value + b % 64
  | left + 2, low, high, value => ∀ b, low ≤ b → b ≤ high →
    Beyond (left + 1) 0x80 0xBF (64 * value + b % 64)

theorem toNat_ofNat_of_valid {n : Nat} (h : n.isValidChar) : (Char.ofNat n).toNat = n := by
  rw [Char.ofNat, dif_pos h]
  rfl

/-- What a byte beyond ASCII starts: a character beyond ASCII, or none. -/
inductive StartsBeyond : List (Option Char) × Decoder → Prop
  | broken : StartsBeyond ([none], between)
  | character {left low high value : Nat} (h : Beyond left low high value) :
      StartsBeyond ([], inside left low high value)

theorem startsBeyond_of_le {b : Nat} (h : 128 ≤ b) : StartsBeyond (start b) := by
  unfold start
  split_ifs
  · omega
  case neg => exact .broken
  -- The bounds of the byte after a leading one rule out what a shorter sequence could say.
  all_goals
    apply StartsBeyond.character
    simp only [Beyond, Nat.isValidChar]
    omega

/-- Inside a sequence the next to end is no ASCII character. -/
theorem run_inside {left low high value : Nat} (h : Beyond left low high value) (bs : Bytes) :
    ∃ x xs, run (inside left low high value) bs = x :: xs ∧ ∀ c ∈ x, 128 ≤ c.toNat := by
  induction bs generalizing left low high value with
  | nil => exact ⟨none, [], rfl, by simp⟩
  | cons b bs ih =>
      by_cases hBounds : low ≤ b.toNat ∧ b.toNat ≤ high
      · match left with
        | 0 => exact h.elim
        | 1 =>
            obtain ⟨hValid, hLarge⟩ := h b.toNat hBounds.1 hBounds.2
            refine ⟨some (Char.ofNat (64 * value + b.toNat % 64)), run between bs, ?_, ?_⟩
            · simp [run, step, hBounds]
            · intro c hc
              obtain rfl := Option.some.inj hc
              rwa [toNat_ofNat_of_valid hValid]
        | left + 2 =>
            have hNext := ih (h b.toNat hBounds.1 hBounds.2)
            simpa [run, step, hBounds] using hNext
      · refine ⟨none, (start b.toNat).1 ++ run (start b.toNat).2 bs, ?_, by simp⟩
        simp [run, step, hBounds]

/-- Nor does one begin with a byte beyond ASCII. -/
theorem run_beyond {b : UInt8} (h : 128 ≤ b.toNat) (bs : Bytes) :
    ∃ x xs, run between (b :: bs) = x :: xs ∧ ∀ c ∈ x, 128 ≤ c.toNat := by
  have hStart := startsBeyond_of_le h
  generalize hStarted : start b.toNat = started at hStart
  cases hStart with
  | broken => exact ⟨none, run between bs, by simp [run, step, hStarted], by simp⟩
  | character hBeyond =>
      obtain ⟨x, xs, hRun, hLarge⟩ := run_inside hBeyond bs
      exact ⟨x, xs, by simp [run, step, hStarted, hRun], hLarge⟩

/-- ASCII characters come from the bytes that they are. -/
theorem eq_encode_of_run {bs : Bytes} {cs : List Char} (h : run between bs = cs.map some)
    (hAscii : ∀ c ∈ cs, c.toNat < 128) : bs = encode cs := by
  induction bs generalizing cs with
  | nil =>
      obtain rfl : cs = [] := by simpa [run] using h.symm
      rfl
  | cons b bs ih =>
      by_cases hByte : b.toNat < 128
      · have hStep : run between (b :: bs) = some (Char.ofNat b.toNat) :: run between bs := by
          simp [run, step, start, hByte]
        rw [hStep] at h
        cases cs with
        | nil => cases h
        | cons c cs =>
            rw [List.map_cons, List.cons_eq_cons] at h
            rw [List.forall_mem_cons] at hAscii
            obtain ⟨hChar, hRest⟩ := h
            have hSame : c.toNat = b.toNat := by
              rw [← Option.some.inj hChar, toNat_ofNat_of_valid (Or.inl (by omega))]
            rw [ih hRest hAscii.2, encode, encode, List.flatMap_cons,
              encodeChar_of_ascii hAscii.1, hSame, UInt8.ofNat_toNat]
            rfl
      · exfalso
        obtain ⟨x, xs, hRun, hLarge⟩ := run_beyond (Nat.not_lt.1 hByte) bs
        rw [hRun] at h
        cases cs with
        | nil => cases h
        | cons c cs =>
            obtain ⟨rfl, _⟩ := List.cons_eq_cons.1 h
            have hSmall := hAscii c List.mem_cons_self
            have hNotSmall := hLarge c rfl
            omega

end Decoder

theorem mapM_id_eq_some_iff {α : Type} {xs : List (Option α)} {ys : List α} :
    xs.mapM id = some ys ↔ xs = ys.map some := by
  induction xs generalizing ys with
  | nil => cases ys <;> simp
  | cons x xs ih =>
      cases ys with
      | nil => simp [List.mapM_cons, Option.bind_eq_some_iff]
      | cons y ys => simp [List.mapM_cons, Option.bind_eq_some_iff, ih]

/-- Bytes decode to an ASCII text exactly if they are its characters. -/
theorem decode?_eq_some_iff_of_ascii {bs : Bytes} {cs : List Char}
    (hAscii : ∀ c ∈ cs, c.toNat < 128) : decode? bs = some cs ↔ bs = encode cs := by
  constructor
  · intro h
    exact Decoder.eq_encode_of_run (mapM_id_eq_some_iff.1 h) hAscii
  · rintro rfl
    exact decode?_encode_of_ascii hAscii

end Tollgate.Utf8
