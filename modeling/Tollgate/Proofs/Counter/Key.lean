import Tollgate.Counter.Client
import Tollgate.Proofs.Calendar.Date
import Tollgate.Proofs.Uuid

/-!
No two counters share a key. The service fills the first 36 characters, the kind the last ones, and
what stands between is the date.
-/

namespace Tollgate

/-- Keys that are written alike are about the same service and day. -/
theorem CounterKey.eq_of_chars {k l : CounterKey} (h : k.chars = l.chars) : k = l := by
  obtain ⟨service, date, ⟨⟩⟩ := k
  obtain ⟨service', date', ⟨⟩⟩ := l
  have hKind := List.append_inj_left' h rfl
  obtain ⟨hService, hDate⟩ := List.append_inj hKind
    ((Uuid.length_chars service).trans (Uuid.length_chars service').symm)
  obtain rfl : service = service' := Uuid.chars_injective hService
  obtain rfl : date = date' := Date.chars_injective (List.cons_eq_cons.1 hDate).2
  rfl

/-- A text holds what it is made of, so that it is enough to look at the characters. -/
theorem CounterKey.eq_of_text {k l : CounterKey} (h : k.text = l.text) : k = l := by
  have hChars := congrArg String.toList h
  unfold CounterKey.text at hChars
  rw [String.toList_ofList, String.toList_ofList] at hChars
  exact CounterKey.eq_of_chars hChars

/-- Sends of different services, or of different days, are counted under different keys. -/
theorem Counter.dailyKey_inj {today day : Date} {s r : ServiceId}
    (h : dailyKey today s = dailyKey day r) : s = r ∧ today = day := by
  have hKey := CounterKey.eq_of_text h
  exact ⟨congrArg CounterKey.service hKey, congrArg CounterKey.date hKey⟩

/-- The text of a key tells its service, its day and its kind, also where the year carries a sign or
has more than four digits: counters that differ in any of them have different keys. -/
theorem CounterKey.text_eq_iff (k l : CounterKey) :
    k.text = l.text ↔ k.service = l.service ∧ k.date = l.date ∧ k.kind = l.kind := by
  constructor
  · intro h
    obtain rfl := CounterKey.eq_of_text h
    exact ⟨rfl, rfl, rfl⟩
  · rintro ⟨hService, hDate, hKind⟩
    rw [text, text, chars, chars, hService, hDate, hKind]

-- The sign of a year and the hyphen in front of it look alike, and yet no two keys do.
example :
    (⟨default, ⟨-1, 1, 1, by decide⟩, .count⟩ : CounterKey).text =
      "00000000-0000-0000-0000-000000000000--0001-01-01-count" ∧
    (⟨default, ⟨10000, 1, 1, by decide⟩, .count⟩ : CounterKey).text =
      "00000000-0000-0000-0000-000000000000-+10000-01-01-count" := by
  decide +kernel

end Tollgate
