import Tollgate.Proofs.Json.Scanning

/-!
Where white space of a JSON text means nothing. A text is its lexemes in a row, with any white space
before, between and behind them; only behind a number something has to come that numbers are not
made of. Every text that is scanned at all is laid out so, and what is scanned depends on the
lexemes alone.
-/

namespace Tollgate.Json

/-- What may stand between the quotes of a string: characters as they are, but for quotes,
backslashes and control characters; escapes by name; and escapes by four hexadecimal digits. -/
inductive StringBody : List Char → Prop
  | nil : StringBody []
  | plain {c : Char} {cs : List Char} (hQuote : c ≠ '"') (hSlash : c ≠ '\\')
    (hControl : 0x20 ≤ c.toNat) (h : StringBody cs) : StringBody (c :: cs)
  | named {c : Char} {cs : List Char} (hName : c ∈ ['"', '\\', '/', 'b', 'f', 'n', 'r', 't'])
    (h : StringBody cs) : StringBody ('\\' :: c :: cs)
  | coded {ds cs : List Char} {n : Nat} (hLength : ds.length = 4)
    (hDigits : Uuid.ofHexDigits? 0 ds = some n) (h : StringBody cs) :
    StringBody ('\\' :: 'u' :: (ds ++ cs))

/-- A lexeme that is no number: a mark, a word, or a string. -/
inductive Lexeme : List Char → Prop
  | mark {c : Char} (h : c ∈ ['{', '}', '[', ']', ',', ':']) : Lexeme [c]
  | word {w : String} (h : w ∈ ["null", "true", "false"]) : Lexeme w.toList
  | string {body : List Char} (h : StringBody body) : Lexeme ('"' :: (body ++ ['"']))

/-- A lexeme that is a number. -/
structure IsNumber (c : Char) (cs : List Char) : Prop where
  begins : Decimal.isDigit c ∨ c = '-'
  numeric : ∀ d ∈ cs, isNumeric d
  valid : (number? (c :: cs)).isSome

/-- The texts of lexemes: these in a row, with any white space around them. -/
inductive Laid : List (List Char) → List Char → Prop
  | nil : Laid [] []
  | space {c : Char} {ls : List (List Char)} {cs : List Char} (hSpace : isSpace c)
    (h : Laid ls cs) : Laid ls (c :: cs)
  | lexeme {l : List Char} {ls : List (List Char)} {cs : List Char} (hLexeme : Lexeme l)
    (h : Laid ls cs) : Laid (l :: ls) (l ++ cs)
  | number {c : Char} {l : List Char} {ls : List (List Char)} {cs : List Char}
    (hNumber : IsNumber c l) (hEnds : EndsNumber cs) (h : Laid ls cs) :
    Laid ((c :: l) :: ls) (c :: l ++ cs)

namespace Scan

/-- What stands between quotes is read as code units. -/
theorem reads_body {cs : List Char} (h : StringBody cs) (units : List Nat) :
    ∃ us, (text units).Reads cs [] (text us) := by
  induction h generalizing units with
  | nil => exact ⟨units, .nil _⟩
  | @plain c cs hQuote hSlash hControl h ih =>
      obtain ⟨us, hRest⟩ := ih (c.toNat :: units)
      exact ⟨us, .silent (by simp [step, hQuote, hSlash, Nat.not_lt.2 hControl]) hRest⟩
  | @named c cs hName h ih =>
      obtain ⟨u, hUnit⟩ : ∃ u, (escape units).step c = some ([], text (u :: units)) := by
        simp only [List.mem_cons, List.not_mem_nil, or_false] at hName
        rcases hName with rfl | rfl | rfl | rfl | rfl | rfl | rfl | rfl <;> exact ⟨_, rfl⟩
      obtain ⟨us, hRest⟩ := ih (u :: units)
      exact ⟨us, .silent rfl (.silent hUnit hRest)⟩
  | @coded ds cs n hLength hDigits h ih =>
      obtain ⟨us, hRest⟩ := ih (n :: units)
      refine ⟨us, .silent rfl (.silent rfl ?_)⟩
      cases ds with
      | nil => cases hLength
      | cons d ds =>
          rw [← hLength]
          exact (reads_hex hDigits).append hRest

/-- A lexeme that is no number is read as one unit. -/
theorem reads_lexeme {l : List Char} (h : Lexeme l) : ∃ t, between.Reads l [t] between := by
  cases h with
  | mark h =>
      simp only [List.mem_cons, List.not_mem_nil, or_false] at h
      rcases h with rfl | rfl | rfl | rfl | rfl | rfl <;> exact ⟨_, .single rfl⟩
  | word h =>
      simp only [List.mem_cons, List.not_mem_nil, or_false] at h
      rcases h with rfl | rfl | rfl <;> exact ⟨_, .silent rfl (reads_word _ _ _)⟩
  | string h =>
      obtain ⟨us, hBody⟩ := reads_body h []
      exact ⟨_, .silent rfl (hBody.append (.single rfl))⟩

end Scan

/-- What is scanned from a text is what is scanned from its lexemes, each on its own. -/
theorem Laid.tokens?_eq {ls : List (List Char)} {cs : List Char} (h : Laid ls cs) :
    tokens? cs = some (ls.flatMap fun l => (tokens? l).getD []) := by
  induction h with
  | nil => rfl
  | space hSpace h ih =>
      rw [tokens?, Scan.run_cons (Scan.step_of_isSpace hSpace), ← tokens?, ih]
      rfl
  | @lexeme l ls cs hLexeme h ih =>
      obtain ⟨t, hReads⟩ := Scan.reads_lexeme hLexeme
      have hAlone : tokens? l = some [t] := by
        have hLast := hReads []
        rwa [List.append_nil] at hLast
      rw [tokens?, hReads, ← tokens?, ih, List.flatMap_cons, hAlone]
      rfl
  | @number c l ls cs hNumber hEnds h ih =>
      obtain ⟨t, hToken⟩ := Option.isSome_iff_exists.1 hNumber.valid
      have hReads := Scan.reads_number hNumber.begins hNumber.numeric
      have hAlone : tokens? (c :: l) = some [t] := by
        have hEnd : EndsNumber [] := nofun
        have hLast := Scan.run_of_number hReads hToken hEnd
        rwa [List.append_nil] at hLast
      rw [tokens?, Scan.run_of_number hReads hToken hEnds, ← tokens?, ih, List.flatMap_cons, hAlone]
      rfl

/-- A text that is laid out from lexemes. -/
def IsLaid (cs : List Char) : Prop :=
  ∃ ls, Laid ls cs

namespace IsLaid

variable {cs : List Char}

theorem space {c : Char} (hSpace : isSpace c) : IsLaid cs → IsLaid (c :: cs)
  | ⟨ls, h⟩ => ⟨ls, .space hSpace h⟩

theorem lexeme {l : List Char} (hLexeme : Lexeme l) : IsLaid cs → IsLaid (l ++ cs)
  | ⟨ls, h⟩ => ⟨l :: ls, .lexeme hLexeme h⟩

theorem number {c : Char} {l : List Char} (hNumber : IsNumber c l) (hEnds : EndsNumber cs) :
    IsLaid cs → IsLaid (c :: l ++ cs)
  | ⟨ls, h⟩ => ⟨(c :: l) :: ls, .number hNumber hEnds h⟩

end IsLaid

namespace Scan

/-- What a text has to go on with from where reading stands: the rest of the lexeme that is being
read, and then a text of lexemes. -/
def Awaits : Scan → List Char → Prop
  | between, cs => IsLaid cs
  | word left _, cs => ∃ rest, cs = left ++ rest ∧ IsLaid rest
  | number seen, cs => ∃ ds rest, cs = ds ++ rest ∧ (∀ d ∈ ds, isNumeric d) ∧
      (number? (seen.reverse ++ ds)).isSome ∧ EndsNumber rest ∧ IsLaid rest
  | text _, cs => ∃ body rest, cs = body ++ '"' :: rest ∧ StringBody body ∧ IsLaid rest
  | escape _, cs => ∃ body rest, cs = body ++ '"' :: rest ∧ StringBody ('\\' :: body) ∧ IsLaid rest
  | hex _ left value, cs => ∃ ds n body rest, cs = ds ++ (body ++ '"' :: rest) ∧
      ds.length = max 1 left ∧ Uuid.ofHexDigits? value ds = some n ∧ StringBody body ∧ IsLaid rest

variable {c : Char} {ts : List Token} {next : Scan} {rest : List Char}

/-- A character between units begins a lexeme, or is white space. -/
theorem isLaid_of_start (h : start c = some (ts, next)) (hRest : next.Awaits rest) :
    IsLaid (c :: rest) := by
  unfold start at h
  split_ifs at h with hSpace hNumber
  · cases h
    exact .space hSpace hRest
  · cases h
    obtain ⟨ds, rest, rfl, hNumeric, hValid, hEnds, hLaid⟩ := hRest
    exact .number ⟨by simpa using hNumber, hNumeric, hValid⟩ hEnds hLaid
  · split at h
    case h_1 | h_2 | h_3 | h_4 | h_5 | h_6 =>
      cases h
      exact IsLaid.lexeme (.mark (by decide)) hRest
    case h_7 =>
      cases h
      obtain ⟨body, rest, rfl, hBody, hLaid⟩ := hRest
      have h := IsLaid.lexeme (.string hBody) hLaid
      rwa [List.cons_append, List.append_assoc] at h
    case h_8 =>
      cases h
      obtain ⟨rest, rfl, hLaid⟩ := hRest
      exact IsLaid.lexeme (.word (w := "null") (by decide)) hLaid
    case h_9 =>
      cases h
      obtain ⟨rest, rfl, hLaid⟩ := hRest
      exact IsLaid.lexeme (.word (w := "true") (by decide)) hLaid
    case h_10 =>
      cases h
      obtain ⟨rest, rfl, hLaid⟩ := hRest
      exact IsLaid.lexeme (.word (w := "false") (by decide)) hLaid
    case h_11 => cases h

theorem awaits_word {left : List Char} {t : Token} (h : (word left t).step c = some (ts, next))
    (hRest : next.Awaits rest) : (word left t).Awaits (c :: rest) := by
  match left with
  | [] => cases h
  | [d] =>
      rw [step] at h
      split_ifs at h with hSame
      cases h
      exact ⟨rest, by rw [hSame]; rfl, hRest⟩
  | d :: e :: left =>
      simp only [step] at h
      split_ifs at h with hSame
      cases h
      obtain ⟨rest, rfl, hLaid⟩ := hRest
      exact ⟨rest, by rw [hSame]; rfl, hLaid⟩

/-- A number goes on, or has ended and a character begins what comes next. -/
theorem awaits_number {seen : List Char} (h : (number seen).step c = some (ts, next))
    (hRest : next.Awaits rest) : (number seen).Awaits (c :: rest) := by
  rw [step] at h
  split_ifs at h with hNumeric
  · cases h
    obtain ⟨ds, rest, rfl, hAll, hValid, hEnds, hLaid⟩ := hRest
    refine ⟨c :: ds, rest, rfl, List.forall_mem_cons.2 ⟨hNumeric, hAll⟩, ?_, hEnds, hLaid⟩
    rwa [List.reverse_cons, List.append_assoc] at hValid
  · obtain ⟨t, hToken, ⟨us, started⟩, hStart, h⟩ :
        ∃ t, number? seen.reverse = some t ∧ ∃ p, start c = some p ∧
          some (t :: p.1, p.2) = some (ts, next) := by
      simpa [Option.bind_eq_some_iff] using h
    cases h
    have hEnds : EndsNumber (c :: rest) := by
      intro d hd
      obtain rfl := Option.some.inj hd
      simpa using hNumeric
    refine ⟨[], c :: rest, rfl, List.forall_mem_nil _, ?_, hEnds, isLaid_of_start hStart hRest⟩
    rw [List.append_nil, hToken]
    rfl

/-- A character of a string is its last quote, begins an escape, or stands for itself. -/
theorem awaits_text {units : List Nat} (h : (text units).step c = some (ts, next))
    (hRest : next.Awaits rest) : (text units).Awaits (c :: rest) := by
  rw [step] at h
  split_ifs at h with hQuote hSlash hControl
  · cases h
    exact ⟨[], rest, by rw [hQuote]; rfl, .nil, hRest⟩
  · cases h
    obtain ⟨body, rest, rfl, hBody, hLaid⟩ := hRest
    exact ⟨'\\' :: body, rest, by rw [hSlash]; rfl, hBody, hLaid⟩
  · cases h
    obtain ⟨body, rest, rfl, hBody, hLaid⟩ := hRest
    exact ⟨c :: body, rest, rfl, .plain hQuote hSlash (Nat.not_lt.1 hControl) hBody, hLaid⟩

/-- A character that has a code unit behind a backslash has a name there. -/
theorem mem_of_escaped? {u : Nat} (h : escaped? c = some u) :
    c ∈ ['"', '\\', '/', 'b', 'f', 'n', 'r', 't'] := by
  unfold escaped? at h
  split at h
  case h_9 => cases h
  all_goals decide

theorem awaits_escape {units : List Nat} (h : (escape units).step c = some (ts, next))
    (hRest : next.Awaits rest) : (escape units).Awaits (c :: rest) := by
  rw [step] at h
  split_ifs at h with hCoded
  · cases h
    obtain ⟨ds, n, body, rest, rfl, hLength, hDigits, hBody, hLaid⟩ := hRest
    refine ⟨c :: (ds ++ body), rest, by simp, ?_, hLaid⟩
    rw [hCoded]
    exact .coded hLength hDigits hBody
  · obtain ⟨u, hUnit, h⟩ := Option.map_eq_some_iff.1 h
    cases h
    obtain ⟨body, rest, rfl, hBody, hLaid⟩ := hRest
    exact ⟨c :: body, rest, rfl, .named (mem_of_escaped? hUnit) hBody, hLaid⟩

theorem awaits_hex {units : List Nat} {left value : Nat}
    (h : (hex units left value).step c = some (ts, next)) (hRest : next.Awaits rest) :
    (hex units left value).Awaits (c :: rest) := by
  obtain ⟨d, hDigit, h⟩ := Option.bind_eq_some_iff.1 h
  split_ifs at h with hLast
  · cases h
    obtain ⟨body, rest, rfl, hBody, hLaid⟩ := hRest
    refine ⟨[c], 16 * value + d, body, rest, rfl, ?_, ?_, hBody, hLaid⟩
    · rw [List.length_singleton]
      omega
    · simp [Uuid.ofHexDigits?, hDigit]
  · cases h
    obtain ⟨ds, n, body, rest, rfl, hLength, hDigits, hBody, hLaid⟩ := hRest
    refine ⟨c :: ds, n, body, rest, rfl, ?_, ?_, hBody, hLaid⟩
    · rw [List.length_cons]
      omega
    · simpa [Uuid.ofHexDigits?, hDigit] using hDigits

/-- Every character that is read is the one that was awaited. -/
theorem awaits_step {s : Scan} (h : s.step c = some (ts, next)) (hRest : next.Awaits rest) :
    s.Awaits (c :: rest) := by
  cases s with
  | between => exact isLaid_of_start h hRest
  | word left t => exact awaits_word h hRest
  | number seen => exact awaits_number h hRest
  | text units => exact awaits_text h hRest
  | escape units => exact awaits_escape h hRest
  | hex units left value => exact awaits_hex h hRest

/-- What is read to its end is what was awaited. -/
theorem awaits_run {s : Scan} {cs : List Char} {ts : List Token} (h : s.run cs = some ts) :
    s.Awaits cs := by
  induction cs generalizing s ts with
  | nil =>
      cases s with
      | between => exact ⟨[], .nil⟩
      | number seen =>
          obtain ⟨t, hToken, -⟩ := Option.map_eq_some_iff.1 h
          refine ⟨[], [], rfl, List.forall_mem_nil _, ?_, nofun, [], .nil⟩
          rw [List.append_nil, hToken]
          rfl
      | word left t => cases h
      | text units => cases h
      | escape units => cases h
      | hex units left value => cases h
  | cons c cs ih =>
      obtain ⟨⟨us, next⟩, hStep, h⟩ := Option.bind_eq_some_iff.1 h
      obtain ⟨vs, hRest, -⟩ := Option.bind_eq_some_iff.1 h
      exact awaits_step hStep (ih hRest)

end Scan

/-- Every text that is scanned is laid out from lexemes. -/
theorem isLaid_of_tokens? {cs : List Char} {ts : List Token} (h : tokens? cs = some ts) :
    IsLaid cs :=
  Scan.awaits_run h

/-- White space around lexemes does not change the value of a text. -/
theorem Value.ofText?_of_laid {ls : List (List Char)} {s t : String} (h : Laid ls s.toList)
    (g : Laid ls t.toList) : Value.ofText? s = Value.ofText? t := by
  rw [Value.ofText?, Value.ofText?, h.tokens?_eq, g.tokens?_eq]

/-- Every text of a value is laid out from lexemes. -/
theorem Value.isLaid_of_ofText? {s : String} {v : Value} (h : Value.ofText? s = some v) :
    IsLaid s.toList := by
  obtain ⟨ts, hTokens, -⟩ := Option.bind_eq_some_iff.1 h
  exact isLaid_of_tokens? hTokens

end Tollgate.Json
