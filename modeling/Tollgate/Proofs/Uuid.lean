import Tollgate.Uuid

/-!
Identifiers are read back from what is written, so that no two of them are written alike.
-/

namespace Tollgate.Uuid

theorem hexValue?_hexChar {d : Nat} (h : d < 16) : hexValue? (hexChar d) = some d := by
  have hAll : ∀ d < 16, hexValue? (hexChar d) = some d := by decide
  exact hAll d h

theorem length_hexDigits (count n : Nat) : (hexDigits count n).length = count := by
  induction count generalizing n with
  | zero => rfl
  | succ count ih => simp [hexDigits, ih]

/-- Reading goes on where it stopped. -/
theorem ofHexDigits?_append (acc : Nat) (cs ds : List Char) :
    ofHexDigits? acc (cs ++ ds) =
      (ofHexDigits? acc cs).bind fun n => ofHexDigits? n ds := by
  induction cs generalizing acc with
  | nil => rfl
  | cons c cs ih =>
      simp only [List.cons_append, ofHexDigits?]
      cases hexValue? c with
      | none => rfl
      | some d => exact ih _

/-- A number is read back from its digits if they are enough for it. -/
theorem ofHexDigits?_hexDigits {count n : Nat} (h : n < Nat.pow 16 count) :
    ofHexDigits? 0 (hexDigits count n) = some n := by
  induction count generalizing n with
  | zero =>
      obtain rfl : n = 0 := Nat.lt_one_iff.1 h
      rfl
  | succ count ih =>
      have hFront : n / 16 < Nat.pow 16 count := by
        apply Nat.div_lt_of_lt_mul
        rw [Nat.mul_comm]
        exact h
      rw [hexDigits, ofHexDigits?_append, ih hFront, Option.bind_some]
      simp only [ofHexDigits?, hexValue?_hexChar (Nat.mod_lt n (by decide))]
      exact congrArg some (by omega)

/-- The digits between the hyphens of the written form. -/
def bare (cs : List Char) : List Char :=
  cs.take 8 ++ (cs.drop 9).take 4 ++ (cs.drop 14).take 4 ++ (cs.drop 19).take 4 ++ cs.drop 24

theorem bare_of_groups {a b c d e : List Char} (ha : a.length = 8) (hb : b.length = 4)
    (hc : c.length = 4) (hd : d.length = 4) :
    bare (a ++ '-' :: b ++ '-' :: c ++ '-' :: d ++ '-' :: e) = a ++ (b ++ (c ++ (d ++ e))) := by
  simp [bare, List.drop_append, ha, hb, hc, hd, List.drop_eq_nil_of_le]

theorem bare_hyphenate {ds : List Char} (h : ds.length = 32) : bare (hyphenate ds) = ds := by
  have hGroups : bare (hyphenate ds) = ds.take 8 ++ ((ds.drop 8).take 4 ++ ((ds.drop 12).take 4 ++
      ((ds.drop 16).take 4 ++ ds.drop 20))) := by
    apply bare_of_groups <;> simp [h]
  have hRest (n : Nat) : (ds.drop n).take 4 ++ ds.drop (n + 4) = ds.drop n := by
    rw [← List.drop_drop, List.take_append_drop]
  rw [hGroups, hRest 16, hRest 12, hRest 8, List.take_append_drop]

/-- The written form is read back, in full. -/
theorem readHyphenated?_chars (u : Uuid) : readHyphenated? u.chars = some u := by
  have hBare : bare u.chars = hexDigits 32 u.value := bare_hyphenate (length_hexDigits 32 u.value)
  have hDigits : ofHexDigits? 0 (hexDigits 32 u.value) = some u.value :=
    ofHexDigits?_hexDigits (Nat.lt_of_lt_of_eq u.value_lt (by decide))
  unfold bare at hBare
  simp only [readHyphenated?, hBare, readSimple?]
  simp [hDigits, length_hexDigits, chars, u.value_lt]

theorem length_chars (u : Uuid) : u.chars.length = 36 := by
  simp [chars, hyphenate, length_hexDigits]

/-- Of the four written forms of an identifier only the plain one has 36 characters and no mark in
front. -/
theorem ofText?_text (u : Uuid) : ofText? u.text = some u := by
  have hLength := length_chars u
  have hFront : (u.chars.take 9).map Char.toLower ≠ "urn:uuid:".toList := by
    intro h
    -- the ninth character is a hyphen
    have hNinth : u.chars[8]? = some '-' := by
      simp [chars, hyphenate, length_hexDigits]
    have hLast := congrArg (·[8]?) h
    simp [List.getElem?_map, hNinth] at hLast
  rw [ofText?, text, String.toList_ofList, read?, if_neg (by omega), if_neg (by simp [hLength]),
    if_neg hFront]
  exact readHyphenated?_chars u

/-- Two identifiers are not written alike. -/
theorem chars_injective {u v : Uuid} (h : u.chars = v.chars) : u = v := by
  have hRead := readHyphenated?_chars u
  rw [h, readHyphenated?_chars v] at hRead
  exact (Option.some.inj hRead).symm

end Tollgate.Uuid
