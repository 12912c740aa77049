import Tollgate.Proofs.Counter.Counts
import Tollgate.Proofs.Text.Integer

/-!
What counting and reading make of the same stored bytes. The reader passes over white space at the
ends, and a counter does not; apart from that, and from the count after which there is none, both
accept the same numerals. What a counter stores is plain, so that a reader sees the count it told.
-/

namespace Tollgate.Counter

/-- Bytes that are a text without white space at its ends. -/
def IsTrimmed (bytes : Bytes) : Prop :=
  ∃ cs, Utf8.decode? bytes = some cs ∧ Text.Trimmed cs

/-- A count is stored as the bytes of its plain numeral. -/
theorem canonical_countBytes (i : Int) :
    ∃ cs, countBytes i = Utf8.encode cs ∧ Decimal.Canonical cs i :=
  ⟨Decimal.signed i, rfl, Decimal.canonical_signed i⟩

/-- The bytes from which a counter goes on are those of the numerals in its range. -/
theorem Ledger.count?_eq_some_iff {bytes : Bytes} {n : Int} :
    Ledger.count? bytes = some n ↔
      (∃ cs, bytes = Utf8.encode cs ∧ Decimal.Denotes cs n) ∧
        Decimal.int64Min ≤ n ∧ n ≤ Decimal.int64Max := by
  rw [Ledger.count?, Option.bind_eq_some_iff]
  constructor
  · rintro ⟨cs, hText, hRead⟩
    obtain ⟨hDenotes, hRange⟩ := Decimal.readInt64?_eq_some_iff.1 hRead
    have hAscii : ∀ c ∈ cs, c.toNat < 128 := fun c hc => (hDenotes.ascii c hc).1
    exact ⟨⟨cs, (Utf8.decode?_eq_some_iff_of_ascii hAscii).1 hText, hDenotes⟩, hRange⟩
  · rintro ⟨⟨cs, rfl, hDenotes⟩, hRange⟩
    have hAscii : ∀ c ∈ cs, c.toNat < 128 := fun c hc => (hDenotes.ascii c hc).1
    exact ⟨cs, Utf8.decode?_encode_of_ascii hAscii,
      Decimal.readInt64?_eq_some_iff.2 ⟨hDenotes, hRange⟩⟩

theorem readCount_eq_ok_iff {key : String} {bytes : Bytes} {n : Int} :
    readCount key (some bytes) = .ok (some n) ↔
      ∃ cs, Utf8.decode? bytes = some cs ∧ Decimal.readInt64? (Text.trim cs) = some n := by
  rw [← Option.bind_eq_some_iff, readCount]
  cases (Utf8.decode? bytes).bind fun cs => Decimal.readInt64? (Text.trim cs) with
  | none => simp
  | some m => simp

/-- A counter goes on from what a reader sees where there is nothing to trim, and from nothing
else. -/
theorem count?_eq_some_iff_readCount (key : String) {bytes : Bytes} {n : Int} :
    Ledger.count? bytes = some n ↔
      readCount key (some bytes) = .ok (some n) ∧ IsTrimmed bytes := by
  rw [Ledger.count?, Option.bind_eq_some_iff, readCount_eq_ok_iff]
  constructor
  · rintro ⟨cs, hText, hRead⟩
    have hTrimmed := (Decimal.readInt64?_eq_some_iff.1 hRead).1.trimmed
    exact ⟨⟨cs, hText, by rwa [hTrimmed.trim_eq]⟩, cs, hText, hTrimmed⟩
  · rintro ⟨⟨cs, hText, hRead⟩, ds, hSame, hTrimmed⟩
    obtain rfl : cs = ds := Option.some.inj (hText.symm.trans hSame)
    rw [hTrimmed.trim_eq] at hRead
    exact ⟨cs, hText, hRead⟩

namespace Ledger

/-- The next count of stored bytes, where there is one. -/
theorem next_eq_ok_iff {key : String} {bytes : Bytes} {m : Int} :
    next key (some bytes) = .ok m ↔
      count? bytes = some (m - 1) ∧ m - 1 < Decimal.int64Max := by
  cases hCount : count? bytes with
  | none => simp [next, hCount]
  | some n =>
      have hRange := (count?_eq_some_iff.1 hCount).2.2
      simp only [next, hCount, Option.some.injEq]
      split
      · simp
        omega
      · rw [Except.ok.injEq]
        omega

/-- Where there is none, the key is named. -/
theorem next_eq_error {key : String} {bytes : Bytes} {e : Failure}
    (h : next key (some bytes) = .error e) : ∃ shown, e = .invalidCount key shown := by
  simp only [next] at h
  split at h
  · exact ⟨_, (Except.error.inj h).symm⟩
  · split at h
    · exact ⟨_, (Except.error.inj h).symm⟩
    · cases h

end Ledger

section Paths

variable {line : Line} {today : Date} {service : ServiceId} {l : Ledger} {bytes : Bytes}

/-- What is read where a value is stored is what its bytes say. -/
theorem dailyCount_of_stored (hDelivers : line.delivers) (hAvailable : l.available)
    (hStored : l.values.get? (dailyKey today service) = some bytes) :
    line.client.dailyCount today service l =
      (readCount (dailyKey today service) (some bytes),
        { l with operations := l.operations + 1 }) := by
  have hRun : l.run (.get (dailyKey today service)) =
      (.ok (some bytes), { l with operations := l.operations + 1 }) := by
    rw [Ledger.run_of_available hAvailable, Ledger.perform, hStored]
  simp only [Client.dailyCount, Client.run, Line.runUnder_of_delivers hDelivers, hRun]
  rfl

/-- The count that was stored is read. -/
theorem dailyCount_of_counted (hDelivers : line.delivers) (hAvailable : l.available) {m : Int}
    (hStored : l.values.get? (dailyKey today service) = some (countBytes m))
    (hRange : Decimal.int64Min ≤ m ∧ m ≤ Decimal.int64Max) :
    (line.client.dailyCount today service l).1 = .ok (some m) := by
  have hBack : Ledger.count? (countBytes m) = some m := by
    rw [Ledger.count?_countBytes, if_pos hRange]
  rw [dailyCount_of_stored hDelivers hAvailable hStored]
  exact ((count?_eq_some_iff_readCount _).1 hBack).1

/-- A count that goes on from stored bytes is told and stored. -/
theorem incrementDaily_of_next (hDelivers : line.delivers) (hAvailable : l.available)
    (hStored : l.values.get? (dailyKey today service) = some bytes) {m : Int}
    (hNext : Ledger.next (dailyKey today service) (some bytes) = .ok m) :
    ∃ after, line.client.incrementDaily today service l = (.ok (some m), after) ∧
      after.available ∧ after.values.get? (dailyKey today service) = some (countBytes m) := by
  have hRun : l.run (.incr (dailyKey today service)) = (.ok m, { l with
      operations := l.operations + 1
      values := l.values.put (dailyKey today service) (countBytes m) }) := by
    rw [Ledger.run_of_available hAvailable, Ledger.perform, hStored, hNext]
  refine ⟨(l.run (.incr (dailyKey today service))).2, ?_, ?_, ?_⟩
  · simp only [Client.incrementDaily, Client.run, Line.runUnder_of_delivers hDelivers, hRun]
    rfl
  · rw [hRun]
    exact hAvailable
  · rw [hRun]
    exact (Table.get?_put _ _ _ _).trans (if_pos rfl)

/-- Where no count goes on from stored bytes the failure names the key and no policy swallows it. -/
theorem incrementDaily_of_no_next (hDelivers : line.delivers) (hAvailable : l.available)
    (hStored : l.values.get? (dailyKey today service) = some bytes) {shown : String}
    (hNext : Ledger.next (dailyKey today service) (some bytes) =
      .error (.invalidCount (dailyKey today service) shown)) :
    line.client.incrementDaily today service l =
      (.error (.invalidCount (dailyKey today service) shown),
        { l with operations := l.operations + 1 }) := by
  have hRun : l.run (.incr (dailyKey today service)) =
      (.error (.invalidCount (dailyKey today service) shown),
        { l with operations := l.operations + 1 }) := by
    rw [Ledger.run_of_available hAvailable, Ledger.perform, hStored, hNext]
  simp only [Client.incrementDaily, Client.run, Line.runUnder_of_delivers hDelivers, hRun]
  rfl

/-- A count is told exactly where one goes on from the stored bytes. -/
theorem incrementDaily_eq_ok_iff (hDelivers : line.delivers) (hAvailable : l.available)
    (hStored : l.values.get? (dailyKey today service) = some bytes) {m : Int} :
    (line.client.incrementDaily today service l).1 = .ok (some m) ↔
      Ledger.next (dailyKey today service) (some bytes) = .ok m := by
  cases hNext : Ledger.next (dailyKey today service) (some bytes) with
  | ok n =>
      obtain ⟨after, hTold, -⟩ := incrementDaily_of_next hDelivers hAvailable hStored hNext
      rw [hTold]
      simp
  | error e =>
      obtain ⟨shown, rfl⟩ := Ledger.next_eq_error hNext
      rw [incrementDaily_of_no_next hDelivers hAvailable hStored hNext]
      simp

end Paths

/-- Counting and reading agree on what stored bytes mean. -/
structure PathsAgree (c : Client Ledger) (today : Date) (service : ServiceId) (l : Ledger)
    (bytes : Bytes) : Prop where
  counted : ∀ m, (c.incrementDaily today service l).1 = .ok (some m) →
    (∃ cs, bytes = Utf8.encode cs ∧ Decimal.Denotes cs (m - 1)) ∧
      (∃ cs, (c.incrementDaily today service l).2.values.get? (dailyKey today service) =
        some (Utf8.encode cs) ∧ Decimal.Canonical cs m) ∧
      (c.dailyCount today service (c.incrementDaily today service l).2).1 = .ok (some m)
  read : ∀ n, (c.dailyCount today service l).1 = .ok (some n) →
    ((c.incrementDaily today service l).1 = .ok (some (n + 1)) ↔
      IsTrimmed bytes ∧ n < Decimal.int64Max)
  refused : (¬∃ n, (c.dailyCount today service l).1 = .ok (some n) ∧
      IsTrimmed bytes ∧ n < Decimal.int64Max) →
    (∃ shown, (c.incrementDaily today service l).1 =
        .error (.invalidCount (dailyKey today service) shown)) ∧
      (c.incrementDaily today service l).2.values = l.values
  unchanged : (c.dailyCount today service l).2.values = l.values

/-- Counting and reading agree on the bytes that are stored for today, whatever they are, for any
client whose commands get to an available store. -/
theorem counting_agrees_with_reading {line : Line} {today : Date} {service : ServiceId}
    {l : Ledger} {bytes : Bytes} (hDelivers : line.delivers) (hAvailable : l.available)
    (hStored : l.values.get? (dailyKey today service) = some bytes) :
    PathsAgree line.client today service l bytes := by
  have hRead := dailyCount_of_stored hDelivers hAvailable hStored
  constructor
  case counted =>
    intro m hTold
    have hNext := (incrementDaily_eq_ok_iff hDelivers hAvailable hStored).1 hTold
    obtain ⟨hCount, hLess⟩ := Ledger.next_eq_ok_iff.1 hNext
    obtain ⟨hNumeral, hLow, _⟩ := Ledger.count?_eq_some_iff.1 hCount
    obtain ⟨cs, hBytes, hCanonical⟩ := canonical_countBytes m
    have hRange : Decimal.int64Min ≤ m ∧ m ≤ Decimal.int64Max := by omega
    obtain ⟨after, hAfter, hStill, hCounted⟩ :=
      incrementDaily_of_next hDelivers hAvailable hStored hNext
    rw [hAfter]
    refine ⟨hNumeral, ⟨cs, ?_, hCanonical⟩, ?_⟩
    · rw [← hBytes]
      exact hCounted
    · exact dailyCount_of_counted hDelivers hStill hCounted hRange
  case read =>
    intro n hSeen
    simp only [hRead] at hSeen
    rw [incrementDaily_eq_ok_iff hDelivers hAvailable hStored, Ledger.next_eq_ok_iff,
      Int.add_sub_cancel, count?_eq_some_iff_readCount (dailyKey today service)]
    simp only [hSeen, true_and]
  case refused =>
    intro hNot
    cases hNext : Ledger.next (dailyKey today service) (some bytes) with
    | ok m =>
        obtain ⟨hCount, hLess⟩ := Ledger.next_eq_ok_iff.1 hNext
        obtain ⟨hSeen, hTrimmed⟩ :=
          (count?_eq_some_iff_readCount (dailyKey today service)).1 hCount
        rw [hRead] at hNot
        exact absurd ⟨m - 1, hSeen, hTrimmed, hLess⟩ hNot
    | error e =>
        obtain ⟨shown, rfl⟩ := Ledger.next_eq_error hNext
        rw [incrementDaily_of_no_next hDelivers hAvailable hStored hNext]
        exact ⟨⟨shown, rfl⟩, rfl⟩
  case unchanged => rw [hRead]

/-- A plus sign and zeros in front are no matter to a counter, on a line that is just fast enough. -/
theorem counting_agrees_with_reading_signed :
    let line : Line := { policy := .failOpen, timeoutMs := 5, delayMs := 5 }
    let service := Uuid.ofNat 7
    let bytes := Utf8.encode ['+', '0', '0', '7']
    let l : Ledger := { values := ({} : Table String Bytes).put (dailyKey .epoch service) bytes }
    line.delivers ∧ l.available ∧ l.values.get? (dailyKey .epoch service) = some bytes ∧
      PathsAgree line.client .epoch service l bytes ∧
      (line.client.incrementDaily .epoch service l).1 = .ok (some 8) := by
  intro line service bytes l
  have hDelivers : line.delivers := by decide
  have hStored : l.values.get? (dailyKey .epoch service) = some bytes :=
    (Table.get?_put _ _ _ _).trans (if_pos rfl)
  have hDenotes : Decimal.Denotes ['+', '0', '0', '7'] 7 :=
    .natural ⟨['0', '0', '7'], .inr rfl, by simp, by simp [Decimal.isDigit, Decimal.digit?], rfl⟩
  have hLess : 7 < Decimal.int64Max := by decide
  have hCount : Ledger.count? bytes = some 7 :=
    Ledger.count?_eq_some_iff.2 ⟨⟨_, rfl, hDenotes⟩, by decide, by decide⟩
  obtain ⟨hSeen, hTrimmed⟩ := (count?_eq_some_iff_readCount (dailyKey .epoch service)).1 hCount
  have hAgree := counting_agrees_with_reading hDelivers rfl hStored
  refine ⟨hDelivers, rfl, hStored, hAgree, (hAgree.read 7 ?_).2 ⟨hTrimmed, hLess⟩⟩
  rw [dailyCount_of_stored hDelivers rfl hStored]
  exact hSeen

end Tollgate.Counter
