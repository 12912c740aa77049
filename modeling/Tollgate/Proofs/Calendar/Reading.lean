import Mathlib.Tactic.SplitIfs
import Tollgate.Calendar.Reader
import Tollgate.Proofs.Calendar.Date
import Tollgate.Proofs.Text.Numeral

/-!
Dates and instants of the years 0 to 9999 are read back from what is written, to the nanosecond and
leap seconds included. A year outside that range carries a sign and may take more digits.
-/

namespace Tollgate

namespace Decimal

/-- Zeros behind digits. -/
theorem value_append_zeros (ds : List Char) (k : Nat) :
    value (ds ++ List.replicate k '0') = value ds * Nat.pow 10 k := by
  induction k with
  | zero => simp
  | succ k ih =>
      have hZero : (digit? '0').getD 0 = 0 := rfl
      rw [List.replicate_succ', ← List.append_assoc, value_append, ih, hZero, Nat.add_zero,
        Nat.mul_comm, Nat.mul_assoc]
      rfl

end Decimal

namespace Calendar

/-- Digits are taken until there are enough of them or something else comes. -/
theorem takeDigits_append {width : Nat} {ds rest : List Char}
    (hDigits : ∀ c ∈ ds, Decimal.isDigit c = true) (hLength : ds.length ≤ width)
    (hEnd : ds.length = width ∨ ∀ c ∈ rest.head?, Decimal.isDigit c = false) :
    takeDigits width (ds ++ rest) = (ds, rest) := by
  induction ds generalizing width with
  | nil =>
      cases width with
      | zero => rfl
      | succ width =>
          have hRest := hEnd.resolve_left (by simp)
          cases rest with
          | nil => rfl
          | cons c rest => simp [takeDigits, hRest c rfl]
  | cons c ds ih =>
      cases width with
      | zero => cases hLength
      | succ width =>
          have hTake := ih (fun d hd => hDigits d (List.mem_cons_of_mem c hd))
            (Nat.le_of_succ_le_succ hLength) (hEnd.imp_left Nat.succ.inj)
          simp [takeDigits, hDigits c List.mem_cons_self, hTake]

theorem takeDigits_padded (width n : Nat) (rest : List Char) :
    takeDigits width (Decimal.padded width n ++ rest) = (Decimal.padded width n, rest) :=
  takeDigits_append (Decimal.padded_isDigit width n) (Nat.le_of_eq (Decimal.length_padded width n))
    (.inl (Decimal.length_padded width n))

/-- A number that is written in some digits starts with one. -/
theorem exists_padded_cons (width n : Nat) :
    ∃ c cs, Decimal.padded (width + 1) n = c :: cs ∧ Decimal.isDigit c = true := by
  cases hDigits : Decimal.padded (width + 1) n with
  | nil =>
      have hLength := Decimal.length_padded (width + 1) n
      rw [hDigits] at hLength
      cases hLength
  | cons c cs =>
      exact ⟨c, cs, rfl, Decimal.padded_isDigit (width + 1) n c (hDigits ▸ List.mem_cons_self)⟩

theorem number?_padded (width : Nat) {n : Nat} (h : n < Nat.pow 10 (width + 1)) (rest : List Char) :
    number? (width + 1) (Decimal.padded (width + 1) n ++ rest) = some (n, rest) := by
  have hValue := Decimal.value_padded h
  obtain ⟨c, cs, hDigits, -⟩ := exists_padded_cons width n
  rw [number?, takeDigits_padded]
  rw [hDigits] at hValue ⊢
  exact congrArg (fun v => some (v, rest)) hValue

/-- There is no white space before digits. -/
theorem trimStart_padded (width n : Nat) (rest : List Char) :
    Text.trimStart (Decimal.padded (width + 1) n ++ rest) =
      Decimal.padded (width + 1) n ++ rest := by
  obtain ⟨c, cs, hDigits, hc⟩ := exists_padded_cons width n
  rw [hDigits]
  exact List.dropWhile_cons_of_neg (by simp [Decimal.isBlank_of_isDigit hc])

theorem field?_padded (width : Nat) {n : Nat} (h : n < Nat.pow 10 (width + 1)) (rest : List Char) :
    field? (width + 1) (Decimal.padded (width + 1) n ++ rest) = some (n, rest) := by
  rw [field?, trimStart_padded, number?_padded width h]

theorem mark?_padded {c : Char} (hBlank : Text.isBlank c = false) (width n : Nat)
    (rest : List Char) :
    mark? c (c :: (Decimal.padded (width + 1) n ++ rest)) =
      some (Decimal.padded (width + 1) n ++ rest) := by
  have hMark : Text.trimStart (c :: (Decimal.padded (width + 1) n ++ rest)) =
      c :: (Decimal.padded (width + 1) n ++ rest) := List.dropWhile_cons_of_neg (by simp [hBlank])
  rw [mark?, hMark]
  simp [trimStart_padded]

theorem year?_padded {n : Nat} (h : n < 10000) (rest : List Char) :
    year? (Decimal.padded 4 n ++ rest) = some ((n : Int), rest) := by
  obtain ⟨c, cs, hDigits, hc⟩ := exists_padded_cons 3 n
  have hMinus : c ≠ '-' := by
    rintro rfl
    exact absurd hc (by decide)
  have hPlus : c ≠ '+' := by
    rintro rfl
    exact absurd hc (by decide)
  have hRead : number? 4 (c :: (cs ++ rest)) = some (n, rest) := by
    rw [← List.cons_append, ← hDigits]
    exact number?_padded 3 h rest
  rw [year?, trimStart_padded, hDigits]
  simp [hMinus, hPlus, hRead]

/-- A date of a year of four digits is read off the front. -/
theorem date?_chars {d : Date} (hYear : 0 ≤ d.year ∧ d.year ≤ 9999) (rest : List Char) :
    date? (d.chars ++ rest) = some (d, rest) := by
  have hDay : d.day < 100 :=
    Nat.lt_of_le_of_lt (Nat.le_trans d.isDay.2.2.2 (Date.monthLength_le _ _)) (by decide)
  have hMonth : d.month < 100 := Nat.lt_of_le_of_lt d.month_le (by decide)
  have hChars : d.chars ++ rest = Decimal.padded 4 d.year.toNat ++ ('-' ::
      (Decimal.padded 2 d.month ++ ('-' :: (Decimal.padded 2 d.day ++ rest)))) := by
    simp [Date.chars, Date.yearChars, hYear]
  have hDate : Date.ofYmd? (d.year.toNat : Nat) d.month d.day = some d := by
    rw [Int.toNat_of_nonneg hYear.1]
    exact dif_pos d.isDay
  rw [hChars]
  refine Option.bind_eq_some_iff.2 ⟨_, year?_padded (by omega) _, ?_⟩
  refine Option.bind_eq_some_iff.2 ⟨_, mark?_padded (c := '-') rfl _ _ _, ?_⟩
  refine Option.bind_eq_some_iff.2 ⟨_, field?_padded 1 hMonth _, ?_⟩
  refine Option.bind_eq_some_iff.2 ⟨_, mark?_padded (c := '-') rfl _ _ _, ?_⟩
  refine Option.bind_eq_some_iff.2 ⟨_, field?_padded 1 hDay _, ?_⟩
  exact Option.bind_eq_some_iff.2 ⟨d, hDate, rfl⟩

/-- Fraction digits, with zeros put behind them up to nine. -/
theorem fraction?_padded (width : Nat) {n : Nat} (h : n < Nat.pow 10 (width + 1))
    (hWidth : width + 1 ≤ 9) :
    fraction? ('.' :: (Decimal.padded (width + 1) n ++ ['Z'])) =
      some (n * Nat.pow 10 (9 - (width + 1)), ['Z']) := by
  have hTake : takeDigits 9 (Decimal.padded (width + 1) n ++ ['Z']) =
      (Decimal.padded (width + 1) n, ['Z']) := by
    refine takeDigits_append (Decimal.padded_isDigit _ _) ?_ (.inr ?_)
    · rwa [Decimal.length_padded]
    · intro c hc
      obtain rfl := Option.some.inj hc
      decide
  have hValue : Decimal.value (Decimal.padded (width + 1) n ++
      List.replicate (9 - (Decimal.padded (width + 1) n).length) '0') =
        n * Nat.pow 10 (9 - (width + 1)) := by
    rw [Decimal.value_append_zeros, Decimal.value_padded h, Decimal.length_padded]
  obtain ⟨c, cs, hDigits, -⟩ := exists_padded_cons width n
  rw [hDigits] at hTake hValue
  rw [hDigits]
  simp only [fraction?, hTake, hValue]
  rfl

/-- A fraction is read back, whether it takes no digits, three, six or nine. -/
theorem fraction?_fractionChars {nanos : Nat} (h : nanos < 1000000000) :
    fraction? (Timestamp.fractionChars nanos ++ ['Z']) = some (nanos, ['Z']) := by
  unfold Timestamp.fractionChars
  split_ifs with hNone hMillis hMicros
  · rw [hNone]
    rfl
  · have hSmall : nanos / 1000000 < 1000 := by omega
    have hRead := fraction?_padded 2 hSmall (by decide)
    have hBack : nanos / 1000000 * Nat.pow 10 6 = nanos := Nat.div_mul_cancel (by omega)
    exact hRead.trans (by rw [hBack])
  · have hSmall : nanos / 1000 < 1000000 := by omega
    have hRead := fraction?_padded 5 hSmall (by decide)
    have hBack : nanos / 1000 * Nat.pow 10 3 = nanos := Nat.div_mul_cancel (by omega)
    exact hRead.trans (by rw [hBack])
  · have hRead := fraction?_padded 8 h (by decide)
    have hBack : nanos * Nat.pow 10 0 = nanos := Nat.mul_one nanos
    exact hRead.trans (by rw [hBack])

theorem guard_of_holds {p : Prop} [Decidable p] (h : p) : (guard p : Option Unit) = some () :=
  if_pos h

/-- A time of day is read back; the second 60 makes a leap second of the one before. -/
theorem time?_padded {hour minute second nanos : Nat} (hHour : hour < 24) (hMinute : minute < 60)
    (hSecond : second ≤ 60) (hNanos : nanos < 1000000000) :
    time? (Decimal.padded 2 hour ++ ':' :: (Decimal.padded 2 minute ++ ':' ::
        (Decimal.padded 2 second ++ (Timestamp.fractionChars nanos ++ ['Z'])))) =
      some (if second = 60 then (hour * 3600 + minute * 60 + 59, nanos + 1000000000)
        else (hour * 3600 + minute * 60 + second, nanos), ['Z']) := by
  have hHours : hour < 100 := Nat.lt_trans hHour (by decide)
  have hMinutes : minute < 100 := Nat.lt_trans hMinute (by decide)
  have hSeconds : second < 100 := Nat.lt_of_le_of_lt hSecond (by decide)
  refine Option.bind_eq_some_iff.2 ⟨_, field?_padded 1 hHours _, ?_⟩
  refine Option.bind_eq_some_iff.2 ⟨_, mark?_padded (c := ':') rfl _ _ _, ?_⟩
  refine Option.bind_eq_some_iff.2 ⟨_, field?_padded 1 hMinutes _, ?_⟩
  refine Option.bind_eq_some_iff.2 ⟨_, mark?_padded (c := ':') rfl _ _ _, ?_⟩
  refine Option.bind_eq_some_iff.2 ⟨_, field?_padded 1 hSeconds _, ?_⟩
  refine Option.bind_eq_some_iff.2 ⟨_, fraction?_fractionChars hNanos, ?_⟩
  refine Option.bind_eq_some_iff.2 ⟨(), guard_of_holds ⟨hHour, hMinute, hSecond⟩, ?_⟩
  split_ifs with hLeap <;> rfl

theorem ofLocal?_zero (t : Timestamp) : Timestamp.ofLocal? t.date t.second t.nanos 0 = some t := by
  have hDay : t.second < 86400 := t.isTime.1
  have hLow : ¬(t.second : Int) < 0 := by omega
  have hHigh : ¬86400 ≤ (t.second : Int) := by omega
  simp only [Timestamp.ofLocal?, Int.sub_zero, if_neg hLow, if_neg hHigh, Int.toNat_natCast,
    Timestamp.ofParts?, dif_pos t.isTime]

/-- The written time of an instant, and the mark of universal time. -/
def clockChars (t : Timestamp) : List Char :=
  Decimal.padded 2 (t.second / 3600) ++ ':' :: (Decimal.padded 2 (t.second / 60 % 60) ++
    ':' :: (Decimal.padded 2 (if 1000000000 ≤ t.nanos then 60 else t.second % 60) ++
      (Timestamp.fractionChars
        (if 1000000000 ≤ t.nanos then t.nanos - 1000000000 else t.nanos) ++ ['Z'])))

theorem chars_eq (t : Timestamp) : t.chars = t.date.chars ++ 'T' :: clockChars t := by
  simp [Timestamp.chars, clockChars]

theorem time?_clockChars (t : Timestamp) :
    time? (clockChars t) = some ((t.second, t.nanos), ['Z']) := by
  obtain ⟨hDay, hNanos, hLeap⟩ := t.isTime
  have hHour : t.second / 3600 < 24 := by omega
  have hMinute : t.second / 60 % 60 < 60 := Nat.mod_lt _ (by decide)
  unfold clockChars
  split_ifs with hIsLeap
  · have hLast := hLeap hIsLeap
    have hClock : t.second / 3600 * 3600 + t.second / 60 % 60 * 60 + 59 = t.second := by omega
    rw [time?_padded hHour hMinute (Nat.le_refl 60) (by omega), if_pos rfl, hClock,
      Nat.sub_add_cancel hIsLeap]
  · have hSecond : t.second % 60 < 60 := Nat.mod_lt _ (by decide)
    have hClock : t.second / 3600 * 3600 + t.second / 60 % 60 * 60 + t.second % 60 = t.second := by
      omega
    rw [time?_padded hHour hMinute (Nat.le_of_lt hSecond) (by omega),
      if_neg (Nat.ne_of_lt hSecond), hClock]

/-- An instant of a year of four digits is read back. -/
theorem timestamp?_chars {t : Timestamp} (hYear : 0 ≤ t.date.year ∧ t.date.year ≤ 9999) :
    timestamp? t.chars = some (t, []) := by
  have hOffset : offset? (Text.trimStart ['Z']) = some (0, []) := by decide
  rw [chars_eq]
  refine Option.bind_eq_some_iff.2 ⟨_, date?_chars hYear _, ?_⟩
  refine Option.bind_eq_some_iff.2 ⟨(), guard_of_holds (.inl rfl), ?_⟩
  refine Option.bind_eq_some_iff.2 ⟨_, time?_clockChars t, ?_⟩
  refine Option.bind_eq_some_iff.2 ⟨_, hOffset, ?_⟩
  exact Option.bind_eq_some_iff.2 ⟨t, ofLocal?_zero t, rfl⟩

end Calendar

/-- Dates of the years 0 to 9999 are read back. -/
theorem Date.ofText?_text {d : Date} (h : 0 ≤ d.year ∧ d.year ≤ 9999) :
    Date.ofText? d.text = some d := by
  have hRead := Calendar.date?_chars h []
  rw [List.append_nil] at hRead
  rw [ofText?, text, String.toList_ofList, Calendar.whole?, hRead]
  rfl

/-- Instants of the years 0 to 9999 are read back. -/
theorem Timestamp.ofText?_text {t : Timestamp} (h : 0 ≤ t.date.year ∧ t.date.year ≤ 9999) :
    Timestamp.ofText? t.text = some t := by
  rw [ofText?, text, String.toList_ofList, Calendar.whole?, Calendar.timestamp?_chars h]
  rfl

end Tollgate
