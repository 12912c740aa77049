import Tollgate.Json.Reader
import Tollgate.Proofs.Text.Decimal
import Tollgate.Proofs.Uuid

/-!
The written forms of lexical units are scanned as these units, with any white space between them.
Only behind a number something has to come that numbers are not made of, or the end of the text.
-/

namespace Tollgate

namespace Json

/-- A unit of a text that can be read: no string of it names half a character. -/
def Token.IsWhole (t : Token) : Prop :=
  t ≠ .string none

/-- Whether a unit is a number. -/
def Token.isNumber : Token → Bool
  | natural _ | otherNumber => true
  | _ => false

/-- The units do not start with a number. -/
def StartsPlain (ts : List Token) : Prop :=
  ∀ t ∈ ts.head?, t.isNumber = false

/-- The text does not go on with a number. -/
def EndsNumber (cs : List Char) : Prop :=
  ∀ c ∈ cs.head?, isNumeric c = false

/-- The texts of units: their written forms in a row, with any white space around them. A number
must not be followed by another one, as the two could run into one. -/
inductive Spaced : List Token → List Char → Prop
  | nil : Spaced [] []
  | space {c : Char} {ts : List Token} {cs : List Char} (hSpace : isSpace c = true)
    (h : Spaced ts cs) : Spaced ts (c :: cs)
  | unit {t : Token} {ts : List Token} {cs : List Char} (hWhole : t.IsWhole)
    (hNumber : t.isNumber = true → StartsPlain ts) (h : Spaced ts cs) :
    Spaced (t :: ts) (t.chars ++ cs)

theorem isNumeric_of_isSpace {c : Char} (h : isSpace c = true) : isNumeric c = false := by
  simp only [isSpace, Bool.or_eq_true, decide_eq_true_eq] at h
  rcases h with ((rfl | rfl) | rfl) | rfl <;> decide

/-- The written form of a unit that is no number starts with nothing that numbers are made of. -/
theorem Token.endsNumber_chars {t : Token} (h : t.isNumber = false) (cs : List Char) :
    EndsNumber (t.chars ++ cs) := by
  intro c hc
  cases t with
  | natural n => cases h
  | otherNumber => cases h
  | bool b => cases b <;> (obtain rfl := Option.some.inj hc; decide)
  | _ => obtain rfl := Option.some.inj hc; decide

/-- What the units say about numbers, their text says. -/
theorem Spaced.endsNumber {ts : List Token} {cs : List Char} (h : Spaced ts cs)
    (hPlain : StartsPlain ts) : EndsNumber cs := by
  cases h with
  | nil => exact fun c hc => nomatch hc
  | space hSpace _ =>
      intro c hc
      obtain rfl := Option.some.inj hc
      exact isNumeric_of_isSpace hSpace
  | unit _ _ _ => exact Token.endsNumber_chars (hPlain _ rfl) _

namespace Scan

theorem run_cons {s next : Scan} {c : Char} {ts : List Token} (h : s.step c = some (ts, next))
    (rest : List Char) : s.run (c :: rest) = (next.run rest).map (ts ++ ·) := by
  cases hRest : next.run rest <;> simp [run, h, hRest]

/-- From where it stands, reading these characters yields these units and then stands elsewhere,
whatever follows. -/
def Reads (s : Scan) (cs : List Char) (ts : List Token) (next : Scan) : Prop :=
  ∀ rest, s.run (cs ++ rest) = (next.run rest).map (ts ++ ·)

namespace Reads

theorem nil (s : Scan) : s.Reads [] [] s := by
  intro rest
  simp

theorem cons {s next last : Scan} {c : Char} {cs : List Char} {ts us : List Token}
    (hStep : s.step c = some (ts, next)) (h : next.Reads cs us last) :
    s.Reads (c :: cs) (ts ++ us) last := by
  intro rest
  rw [List.cons_append, run_cons hStep, h, Option.map_map]
  congr 1
  funext vs
  exact (List.append_assoc ts us vs).symm

theorem append {s next last : Scan} {cs ds : List Char} {ts us : List Token}
    (h : s.Reads cs ts next) (g : next.Reads ds us last) :
    s.Reads (cs ++ ds) (ts ++ us) last := by
  intro rest
  rw [List.append_assoc, h, g, Option.map_map]
  congr 1
  funext vs
  exact (List.append_assoc ts us vs).symm

/-- A character that ends no unit. -/
theorem silent {s next last : Scan} {c : Char} {cs : List Char} {us : List Token}
    (hStep : s.step c = some ([], next)) (h : next.Reads cs us last) :
    s.Reads (c :: cs) us last :=
  cons hStep h

/-- A character on its own. -/
theorem single {s next : Scan} {c : Char} {ts : List Token} (hStep : s.step c = some (ts, next)) :
    s.Reads [c] ts next := by
  have h := cons hStep (nil next)
  rwa [List.append_nil] at h

end Reads

/-- The letters of a word. -/
theorem reads_word (t : Token) (d : Char) (left : List Char) :
    (word (d :: left) t).Reads (d :: left) [t] between := by
  induction left generalizing d with
  | nil => exact Reads.single (by simp [step])
  | cons e left ih => exact Reads.silent (by simp [step]) (ih e)

/-- The digits of an escape by number. -/
theorem reads_hex {units : List Nat} {value n : Nat} {c : Char} {ds : List Char}
    (h : Uuid.ofHexDigits? value (c :: ds) = some n) :
    (hex units (c :: ds).length value).Reads (c :: ds) [] (text (n :: units)) := by
  induction ds generalizing c value with
  | nil =>
      rw [Uuid.ofHexDigits?] at h
      cases hDigit : Uuid.hexValue? c with
      | none => rw [hDigit] at h; cases h
      | some d =>
          rw [hDigit] at h
          obtain rfl : 16 * value + d = n := Option.some.inj h
          exact Reads.single (by simp [step, hDigit])
  | cons e ds ih =>
      rw [Uuid.ofHexDigits?] at h
      cases hDigit : Uuid.hexValue? c with
      | none => rw [hDigit] at h; cases h
      | some d =>
          rw [hDigit] at h
          exact Reads.silent (by simp [step, hDigit]) (ih h)

theorem reads_hexDigits (units : List Nat) {n : Nat} (h : n < 65536) :
    (hex units 4 0).Reads (Uuid.hexDigits 4 n) [] (text (n :: units)) := by
  have hValue : Uuid.ofHexDigits? 0 (Uuid.hexDigits 4 n) = some n :=
    Uuid.ofHexDigits?_hexDigits h
  have hLength : (Uuid.hexDigits 4 n).length = 4 := Uuid.length_hexDigits 4 n
  cases hDigits : Uuid.hexDigits 4 n with
  | nil => rw [hDigits] at hLength; cases hLength
  | cons c ds =>
      rw [hDigits] at hValue hLength
      rw [← hLength]
      exact reads_hex hValue

/-- A character of a string is read as its number, however it is written. -/
theorem reads_escapeChar (units : List Nat) (c : Char) :
    (text units).Reads (escapeChar c) [] (text (c.toNat :: units)) := by
  have hEscape {d : Char} {u : Nat} (hd : d ≠ 'u') (hu : escaped? d = some u) :
      (text units).Reads ['\\', d] [] (text (u :: units)) :=
    Reads.silent rfl (Reads.single (by simp [step, hd, hu]))
  unfold escapeChar
  -- a named escape first for each character that has one, then the others by number
  split_ifs with hQuote hSlash hLine hReturn hTab hBack hFeed hControl
  · rw [hQuote]
    exact hEscape (by decide) rfl
  · rw [hSlash]
    exact hEscape (by decide) rfl
  · rw [hLine]
    exact hEscape (by decide) rfl
  · rw [hReturn]
    exact hEscape (by decide) rfl
  · rw [hTab]
    exact hEscape (by decide) rfl
  · rw [hBack]
    exact hEscape (by decide) rfl
  · rw [hFeed]
    exact hEscape (by decide) rfl
  · exact Reads.silent rfl <| Reads.silent rfl <|
      reads_hexDigits units (Nat.lt_trans hControl (by decide))
  · exact Reads.single (by simp [step, hQuote, hSlash, hControl])

end Scan

/-- No character stands for half of one. -/
theorem not_isHalf (c : Char) : isLeading c.toNat = false ∧ isTrailing c.toNat = false := by
  have hValid : c.toNat < 0xD800 ∨ 0xDFFF < c.toNat ∧ c.toNat < 0x110000 := c.valid
  simp only [isLeading, isTrailing, Bool.and_eq_false_iff, decide_eq_false_iff_not]
  omega

theorem joinUnits_map_toNat (cs : List Char) : joinUnits (cs.map Char.toNat) = some cs := by
  induction cs with
  | nil => rfl
  | cons c cs ih =>
      obtain ⟨hLeading, hTrailing⟩ := not_isHalf c
      cases cs with
      | nil => simp [joinUnits, hLeading, hTrailing]
      | cons d cs =>
          simp only [List.map_cons] at ih ⊢
          simp [joinUnits, hLeading, hTrailing, ih]

namespace Scan

theorem reads_quote (s : String) :
    between.Reads (quote s) [.string (some s)] between := by
  have hText (cs : List Char) (units : List Nat) : (text units).Reads (cs.flatMap escapeChar) []
      (text ((cs.map Char.toNat).reverse ++ units)) := by
    induction cs generalizing units with
    | nil => exact Reads.nil _
    | cons c cs ih =>
        have hRest := ih (c.toNat :: units)
        rw [List.flatMap_cons, List.map_cons, List.reverse_cons, List.append_assoc]
        exact Reads.append (reads_escapeChar units c) hRest
  have hLast : (text ((s.toList.map Char.toNat).reverse ++ [])).Reads ['"'] [.string (some s)]
      between := by
    refine Reads.single ?_
    simp [step, joinUnits_map_toNat]
  exact Reads.silent rfl ((hText s.toList []).append hLast)

/-- A run of characters that numbers are made of. -/
theorem reads_numeric (seen : List Char) {cs : List Char} (h : ∀ c ∈ cs, isNumeric c = true) :
    (number seen).Reads cs [] (number (cs.reverse ++ seen)) := by
  induction cs generalizing seen with
  | nil => exact Reads.nil _
  | cons c cs ih =>
      have hc := h c List.mem_cons_self
      rw [List.reverse_cons, List.append_assoc]
      exact Reads.silent (by simp [step, hc])
        (ih (c :: seen) fun d hd => h d (List.mem_cons_of_mem c hd))

/-- A number ends where the text does not go on with one. -/
theorem run_number {seen rest : List Char} {t : Token} (hToken : number? seen.reverse = some t)
    (hRest : EndsNumber rest) : (number seen).run rest = (between.run rest).map (t :: ·) := by
  cases rest with
  | nil => simp [run, finish, hToken]
  | cons c rest =>
      have hc := hRest c rfl
      cases hStart : start c with
      | none => simp [run, step, hc, hToken, hStart]
      | some p =>
          obtain ⟨ts, next⟩ := p
          have hNumber : (number seen).step c = some (t :: ts, next) := by
            simp [step, hc, hToken, hStart]
          rw [run_cons hNumber, run_cons (s := between) hStart, Option.map_map]
          rfl

end Scan

theorem number?_digits (n : Nat) : number? (Decimal.digits n) = some (.natural n) := by
  have hDigits : isDigits (Decimal.digits n) = true := by
    simp only [isDigits, Bool.and_eq_true, Bool.not_eq_true', List.isEmpty_eq_false_iff,
      List.all_eq_true]
    exact ⟨Decimal.digits_ne_nil n, Decimal.digits_isDigit n⟩
  have hLead : ((Decimal.digits n).length = 1 || (Decimal.digits n).head? != some '0') = true := by
    rw [Bool.or_eq_true, decide_eq_true_eq, bne_iff_ne]
    rcases Nat.eq_zero_or_pos n with rfl | hPos
    · exact .inl (congrArg List.length (Decimal.digits_of_lt (by decide)))
    · exact .inr (Decimal.head?_digits hPos)
  rw [number?, isInteger, hDigits, hLead, Decimal.value_digits]
  rfl

namespace Scan

theorem isNumeric_of_isDigit {c : Char} (h : Decimal.isDigit c = true) : isNumeric c = true := by
  simp [isNumeric, h]

/-- A number is begun by a digit or a minus sign. -/
theorem reads_number {c : Char} {cs : List Char} (hc : Decimal.isDigit c = true ∨ c = '-')
    (h : ∀ d ∈ cs, isNumeric d = true) :
    between.Reads (c :: cs) [] (number (c :: cs).reverse) := by
  have hSpace : isSpace c = false := by
    cases hSpace : isSpace c with
    | false => rfl
    | true =>
        have hNot := isNumeric_of_isSpace hSpace
        rcases hc with hc | rfl
        · rw [isNumeric_of_isDigit hc] at hNot
          cases hNot
        · exact absurd hSpace (by decide)
  rw [List.reverse_cons]
  exact Reads.silent (by simp [step, start, hSpace, hc]) (reads_numeric [c] h)

/-- A number and what follows it. -/
theorem run_of_number {cs rest : List Char} {t : Token}
    (hReads : between.Reads cs [] (number cs.reverse)) (hToken : number? cs = some t)
    (hRest : EndsNumber rest) : between.run (cs ++ rest) = (between.run rest).map (t :: ·) := by
  rw [← List.reverse_reverse cs] at hToken
  rw [hReads, run_number hToken hRest, Option.map_map]
  rfl

/-- A unit is scanned from its written form. -/
theorem run_chars {t : Token} (hWhole : t.IsWhole) {rest : List Char}
    (hNumber : t.isNumber = true → EndsNumber rest) :
    between.run (t.chars ++ rest) = (between.run rest).map (t :: ·) := by
  cases t with
  | natural n =>
      obtain ⟨c, cs, hDigits⟩ := List.exists_cons_of_ne_nil (Decimal.digits_ne_nil n)
      have hAll : ∀ d ∈ c :: cs, Decimal.isDigit d = true := hDigits ▸ Decimal.digits_isDigit n
      have hReads := reads_number (.inl (hAll c List.mem_cons_self)) fun d hd =>
        isNumeric_of_isDigit (hAll d (List.mem_cons_of_mem c hd))
      rw [← hDigits] at hReads
      exact run_of_number hReads (number?_digits n) (hNumber rfl)
  | otherNumber =>
      have hZero : ∀ d ∈ ['0'], isNumeric d = true :=
        List.forall_mem_singleton.2 (isNumeric_of_isDigit rfl)
      exact run_of_number (reads_number (.inr rfl) hZero) rfl (hNumber rfl)
  | string s =>
      cases s with
      | none => exact absurd rfl hWhole
      | some s => exact reads_quote s rest
  | null => exact Reads.silent rfl (reads_word .null 'u' ['l', 'l']) rest
  | bool b =>
      cases b with
      | true => exact Reads.silent rfl (reads_word (.bool true) 'r' ['u', 'e']) rest
      | false => exact Reads.silent rfl (reads_word (.bool false) 'a' ['l', 's', 'e']) rest
  | openBrace => exact run_cons (s := between) (c := '{') rfl rest
  | closeBrace => exact run_cons (s := between) (c := '}') rfl rest
  | openBracket => exact run_cons (s := between) (c := '[') rfl rest
  | closeBracket => exact run_cons (s := between) (c := ']') rfl rest
  | comma => exact run_cons (s := between) (c := ',') rfl rest
  | colon => exact run_cons (s := between) (c := ':') rfl rest

end Scan

theorem Scan.step_of_isSpace {c : Char} (h : isSpace c = true) :
    between.step c = some ([], between) :=
  if_pos h

/-- A text of units is scanned as these units. -/
theorem Spaced.tokens?_eq {ts : List Token} {cs : List Char} (h : Spaced ts cs) :
    tokens? cs = some ts := by
  unfold tokens?
  induction h with
  | nil => rfl
  | space hSpace _ ih =>
      rw [Scan.run_cons (Scan.step_of_isSpace hSpace), ih]
      rfl
  | unit hWhole hNumber h ih =>
      rw [Scan.run_chars hWhole fun hNum => h.endsNumber (hNumber hNum), ih]
      rfl

end Json

end Tollgate
