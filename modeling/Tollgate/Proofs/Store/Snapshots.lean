import Tollgate.Store.Memory

/-!
Two ways of fetching a snapshot: by one query of its own, or fact by fact. Over any history of a
store in memory they come to the same, and only the number of questions tells them apart. Over any
store at all, the first question that fails is the last one that is put.
-/

namespace Tollgate

/-- A question with its outcome. -/
structure Exchange where
  question : Question
  outcome : Outcome question.Answer

/-- The failure of a question that failed. -/
def Exchange.failure? (e : Exchange) : Option Failure :=
  match e.outcome with
  | .ok _ => none
  | .error f => some f

/-- A store with a record of what it was asked, the newest first. -/
def Authority.recorded {S : Type} (authority : Authority S) : Authority (S × List Exchange) :=
  fun q s state =>
    let (outcome, next) := authority q s state.1
    (outcome, next, ⟨q, outcome⟩ :: state.2)

namespace Fetch

variable {A S : Type}

/-- The fetch passes on the failure of any of its questions, and fails in no other way. -/
def PassesOn : Fetch A → Prop
  | .done outcome => ∃ a, outcome = .ok a
  | .ask _ next => (∀ f, next (.error f) = .done (.error f)) ∧ ∀ a, (next (.ok a)).PassesOn

theorem factByFact_passesOn : factByFact.PassesOn := by
  refine ⟨fun _ => rfl, fun active => ?_⟩
  cases active with
  | none => exact ⟨none, rfl⟩
  | some active => exact ⟨fun _ => rfl, fun _ => ⟨fun _ => rfl, fun _ => ⟨_, rfl⟩⟩⟩

/-- To keep a record changes nothing. -/
theorem run_recorded (f : Fetch A) (authority : Authority S) (s : ServiceId) (state : S)
    (record : List Exchange) :
    (f.run authority.recorded s (state, record)).1 = (f.run authority s state).1 ∧
      (f.run authority.recorded s (state, record)).2.1 = (f.run authority s state).2 := by
  induction f generalizing state record with
  | done outcome => exact ⟨rfl, rfl⟩
  | ask q next ih => exact ih _ _ _

/-- No question follows one that failed, and the fetch fails exactly as its last question did. The
questions are told by a record of them, which changes nothing else. -/
structure StopsAtFailure (f : Fetch A) (authority : Authority S) (s : ServiceId) (state : S) :
    Prop where
  outcome : (f.run authority.recorded s (state, [])).1 = (f.run authority s state).1
  store : (f.run authority.recorded s (state, [])).2.1 = (f.run authority s state).2
  last : ∀ e ∈ (f.run authority.recorded s (state, [])).2.2.tail, e.failure? = none
  failed : ∀ e : Failure, (f.run authority s state).1 = .error e ↔
    (f.run authority.recorded s (state, [])).2.2.head?.bind Exchange.failure? = some e

/-- What a fetch adds to the record: only the newest question may have failed, and if it did, the
fetch did. -/
theorem PassesOn.record {f : Fetch A} (h : f.PassesOn) (authority : Authority S) (s : ServiceId)
    (state : S) (record : List Exchange) :
    ∃ new, (f.run authority.recorded s (state, record)).2.2 = new ++ record ∧
      (∀ e ∈ new.tail, e.failure? = none) ∧
      ∀ e : Failure, (f.run authority s state).1 = .error e ↔
        new.head?.bind Exchange.failure? = some e := by
  induction f generalizing state record with
  | done outcome =>
      obtain ⟨a, rfl⟩ := h
      exact ⟨[], rfl, by simp, fun e => ⟨nofun, nofun⟩⟩
  | ask q next ih =>
      obtain ⟨hFailed, hAnswered⟩ := h
      simp only [run, Authority.recorded]
      cases hOutcome : (authority q s state).1 with
      | error f =>
          rw [hFailed]
          refine ⟨[⟨q, .error f⟩], rfl, by simp, fun e => ?_⟩
          simp [run, Exchange.failure?]
      | ok a =>
          obtain ⟨new, hRecord, hLast, hEnd⟩ :=
            ih (.ok a) (hAnswered a) (authority q s state).2 (⟨q, .ok a⟩ :: record)
          refine ⟨new ++ [⟨q, .ok a⟩], by simpa using hRecord, ?_, fun e => (hEnd e).trans ?_⟩
          · cases new with
            | nil => simp
            | cons newest earlier =>
                intro e he
                rcases List.mem_append.1 he with hEarlier | hFirst
                · exact hLast e hEarlier
                · rw [List.mem_singleton.1 hFirst]
                  rfl
          · cases new with
            | nil => simp [Exchange.failure?]
            | cons newest earlier => rfl

theorem PassesOn.stopsAtFailure {f : Fetch A} (h : f.PassesOn) (authority : Authority S)
    (s : ServiceId) (state : S) : f.StopsAtFailure authority s state := by
  obtain ⟨new, hRecord, hLast, hEnd⟩ := h.record authority s state []
  rw [List.append_nil] at hRecord
  obtain ⟨hOutcome, hStore⟩ := f.run_recorded authority s state []
  exact ⟨hOutcome, hStore, hRecord ▸ hLast, hRecord ▸ hEnd⟩

end Fetch

namespace MemoryStore

/-- What the store answers to a question now. -/
def outcome (m : MemoryStore) (q : Question) (s : ServiceId) : Outcome q.Answer :=
  (fetch q s m).1

/-- The store after more questions. -/
def asked (m : MemoryStore) (n : Nat) : MemoryStore :=
  { m with queries := m.queries + n }

theorem fetch_eq (m : MemoryStore) (q : Question) (s : ServiceId) :
    fetch q s m = (m.outcome q s, m.asked 1) := by
  unfold outcome fetch asked
  simp only
  split <;> rfl

theorem outcome_of_available {m : MemoryStore} (h : m.available = true) (q : Question)
    (s : ServiceId) : m.outcome q s = .ok (q.answerOf (m.services.get? s)) := by
  simp only [outcome, fetch, h, if_true]

theorem outcome_of_unavailable {m : MemoryStore} (h : m.available = false) (q : Question)
    (s : ServiceId) :
    m.outcome q s = .error (.loadFailed s!"store '{m.label}' is unavailable") := by
  simp only [outcome, fetch, h, Bool.false_eq_true, if_false]

theorem run_answer_of_available {A : Type} {m : MemoryStore} (h : m.available = true)
    (q : Question) (next : q.Answer → Fetch A) (s : ServiceId) :
    (Fetch.answer q next).run fetch s m =
      (next (q.answerOf (m.services.get? s))).run fetch s (m.asked 1) := by
  simp only [Fetch.answer, Fetch.run, fetch_eq, outcome_of_available h]

theorem run_answer_of_unavailable {A : Type} {m : MemoryStore} (h : m.available = false)
    (q : Question) (next : q.Answer → Fetch A) (s : ServiceId) :
    (Fetch.answer q next).run fetch s m =
      (.error (.loadFailed s!"store '{m.label}' is unavailable"), m.asked 1) := by
  simp only [Fetch.answer, Fetch.run, fetch_eq, outcome_of_unavailable h]

/-- How many questions a snapshot takes. -/
def questionsOf (m : MemoryStore) (joined : Bool) (s : ServiceId) : Nat :=
  if joined = false ∧ m.available = true ∧ (m.services.get? s).isSome = true then 3 else 1

/-- Either way of fetching a snapshot comes to what one question for it would be answered. -/
theorem run_snapshot (m : MemoryStore) (joined : Bool) (s : ServiceId) :
    (Fetch.snapshot joined).run fetch s m =
      (m.outcome .snapshot s, m.asked (m.questionsOf joined s)) := by
  cases joined with
  | true => exact fetch_eq m .snapshot s
  | false =>
      change Fetch.factByFact.run fetch s m = _
      cases hAvailable : m.available with
      | false =>
          refine (run_answer_of_unavailable hAvailable _ _ s).trans ?_
          rw [outcome_of_unavailable hAvailable, questionsOf, hAvailable]
          rfl
      | true =>
          have hLater (n : Nat) : (m.asked n).available = true := hAvailable
          refine (run_answer_of_available hAvailable _ _ s).trans ?_
          rw [outcome_of_available hAvailable, questionsOf, hAvailable]
          cases hService : m.services.get? s with
          | none => rfl
          | some held =>
              refine (run_answer_of_available (hLater 1) _ _ s).trans ?_
              refine (run_answer_of_available (hLater 2) _ _ s).trans ?_
              simp only [asked, hService]
              rfl

/-- A snapshot is made of three facts: it holds what they are, is absent exactly if the active flag
is, and fails exactly as each of them does. -/
structure MadeOf (active : Outcome (Option Bool)) (apiKeys : Outcome (List ApiKey))
    (permissions : Outcome (List Permission)) (outcome : Outcome (Option Snapshot)) : Prop where
  held : ∀ snapshot, outcome = .ok (some snapshot) ↔ active = .ok (some snapshot.active) ∧
    apiKeys = .ok snapshot.apiKeys ∧ permissions = .ok snapshot.permissions
  absent : outcome = .ok none ↔ active = .ok none
  failed : ∀ f, (outcome = .error f ↔ active = .error f) ∧
    (outcome = .error f ↔ apiKeys = .error f) ∧ (outcome = .error f ↔ permissions = .error f)

theorem madeOf_error (f : Failure) : MadeOf (.error f) (.error f) (.error f) (.error f) := by
  constructor <;> simp

theorem madeOf_answers (held : Option Snapshot) :
    MadeOf (.ok (Concern.answerOf .serviceActive held)) (.ok (Concern.answerOf .apiKeys held))
      (.ok (Concern.answerOf .permissions held)) (.ok held) where
  held snapshot := by
    constructor
    · intro h
      cases h
      exact ⟨rfl, rfl, rfl⟩
    · rintro ⟨hActive, hKeys, hPermissions⟩
      cases held with
      | none => cases hActive
      | some held =>
          obtain ⟨apiKeys, permissions, active⟩ := held
          cases hActive
          cases hKeys
          cases hPermissions
          rfl
  absent := by cases held <;> simp [Concern.answerOf]
  failed f := by simp

/-- What a store answers about a service, all at once and fact by fact. -/
theorem madeOf_outcome (m : MemoryStore) (s : ServiceId) :
    MadeOf (m.outcome (.fact .serviceActive) s) (m.outcome (.fact .apiKeys) s)
      (m.outcome (.fact .permissions) s) (m.outcome .snapshot s) := by
  cases hAvailable : m.available with
  | false =>
      simp only [outcome_of_unavailable hAvailable]
      exact madeOf_error _
  | true =>
      simp only [outcome_of_available hAvailable]
      exact madeOf_answers _

/-- What is done to a store: a change of what it holds, of whether it answers, or a fetch. -/
inductive Op
  | upsert (s : ServiceId) (snapshot : Snapshot)
  | setActive (s : ServiceId) (active : Bool)
  | setPermissions (s : ServiceId) (permissions : List Permission)
  | revokeKey (s : ServiceId) (id : Uuid) (expiry : Timestamp)
  | setAvailable (available : Bool)
  | fact (c : Concern) (s : ServiceId)
  | snapshot (s : ServiceId)

/-- What comes back: nothing, whether the service or key was known, or what was fetched. -/
inductive Told
  | done
  | known (known : Bool)
  | fact (c : Concern) (outcome : Outcome c.Answer)
  | snapshot (outcome : Outcome (Option Snapshot))

/-- One operation on a store whose snapshots are fetched by their own query, or fact by fact. -/
def step (joined : Bool) (m : MemoryStore) : Op → Told × MemoryStore
  | .upsert s snapshot => (.done, m.upsert s snapshot)
  | .setActive s active => (m.setActive s active).map .known id
  | .setPermissions s permissions => (m.setPermissions s permissions).map .known id
  | .revokeKey s key expiry => (m.revokeKey s key expiry).map .known id
  | .setAvailable available => (.done, { m with available })
  | .fact c s => (fetch (.fact c) s m).map (.fact c) id
  | .snapshot s => ((Fetch.snapshot joined).run fetch s m).map .snapshot id

/-- What comes back from a history of operations, and the store after it. -/
def run (joined : Bool) (m : MemoryStore) : List Op → List Told × MemoryStore
  | [] => ([], m)
  | op :: ops =>
    let (told, next) := m.step joined op
    let (rest, last) := next.run joined ops
    (told :: rest, last)

/-- The store as if it had been asked so many questions. -/
def withQueries (m : MemoryStore) (n : Nat) : MemoryStore :=
  { m with queries := n }

/-- The same comes back from both, and the stores after them differ at most in how many questions
they were asked. -/
structure Agree {A : Type} (p p' : A × MemoryStore) : Prop where
  told : p'.1 = p.1
  store : ∃ n, p'.2 = p.2.withQueries n

theorem Agree.map {A B : Type} {p p' : A × MemoryStore} (h : Agree p p') (f : A → B) :
    Agree (p.map f id) (p'.map f id) :=
  ⟨congrArg f h.told, h.store⟩

section Agreement

variable (m : MemoryStore) (n : Nat)

theorem outcome_withQueries (q : Question) (s : ServiceId) :
    (m.withQueries n).outcome q s = m.outcome q s := by
  unfold outcome fetch withQueries
  simp only
  split <;> rfl

theorem modify_withQueries (s : ServiceId) (change : Snapshot → Snapshot) :
    Agree (m.modify s change) ((m.withQueries n).modify s change) := by
  unfold modify withQueries
  simp only
  split <;> exact ⟨rfl, n, rfl⟩

theorem revokeKey_withQueries (s : ServiceId) (id : Uuid) (expiry : Timestamp) :
    Agree (m.revokeKey s id expiry) ((m.withQueries n).revokeKey s id expiry) := by
  unfold revokeKey withQueries
  simp only
  split
  · exact ⟨rfl, n, rfl⟩
  · split <;> exact ⟨rfl, n, rfl⟩

/-- One operation tells two stores apart only by their numbers of questions, whichever way their
snapshots are fetched. -/
theorem step_agree (joined joined' : Bool) (op : Op) :
    Agree (m.step joined op) ((m.withQueries n).step joined' op) := by
  cases op with
  | upsert s snapshot => exact ⟨rfl, n, rfl⟩
  | setActive s active => exact (m.modify_withQueries n s _).map _
  | setPermissions s permissions => exact (m.modify_withQueries n s _).map _
  | revokeKey s key expiry => exact (m.revokeKey_withQueries n s key expiry).map _
  | setAvailable available => exact ⟨rfl, n, rfl⟩
  | fact c s =>
      simp only [step, fetch_eq, outcome_withQueries]
      exact ⟨rfl, n + 1, rfl⟩
  | snapshot s =>
      simp only [step, run_snapshot, outcome_withQueries]
      exact ⟨rfl, _, rfl⟩

theorem run_agree (joined joined' : Bool) (ops : List Op) :
    Agree (m.run joined ops) ((m.withQueries n).run joined' ops) := by
  induction ops generalizing m n with
  | nil => exact ⟨rfl, n, rfl⟩
  | cons op ops ih =>
      obtain ⟨hTold, n', hStore⟩ := m.step_agree n joined joined' op
      have hRest := ih (m.step joined op).2 n'
      rw [← hStore] at hRest
      refine ⟨?_, hRest.store⟩
      simp only [run, hTold, hRest.told]

end Agreement

/-- A snapshot is made of what the store would answer fact by fact now. It takes one question, or
three if it is not joined and the store is available and knows the service. -/
structure Fetches (m : MemoryStore) (joined : Bool) (s : ServiceId) : Prop where
  outcome : MadeOf (m.outcome (.fact .serviceActive) s) (m.outcome (.fact .apiKeys) s)
    (m.outcome (.fact .permissions) s) ((Fetch.snapshot joined).run fetch s m).1
  queries : ((Fetch.snapshot joined).run fetch s m).2.queries = m.queries + m.questionsOf joined s

theorem fetches (m : MemoryStore) (joined : Bool) (s : ServiceId) : m.Fetches joined s := by
  constructor
  · rw [run_snapshot]
    exact m.madeOf_outcome s
  · rw [run_snapshot]
    rfl

/-- Over any history it makes no difference to what comes back, or to what a store holds, which way
its snapshots are fetched; at any point a snapshot is made of the facts there. And whatever the
store, a snapshot fetched fact by fact fails as the first question that fails, which is the last
one. -/
theorem snapshot_ways_agree :
    (∀ (m : MemoryStore) (ops : List Op), Agree (m.run true ops) (m.run false ops) ∧
      ∀ joined s, (m.run joined ops).2.Fetches joined s) ∧
    ∀ {S : Type} (authority : Authority S) (s : ServiceId) (state : S),
      Fetch.factByFact.StopsAtFailure authority s state :=
  ⟨fun m ops => ⟨m.run_agree m.queries true false ops, fun joined s => fetches _ joined s⟩,
    fun authority s state => Fetch.factByFact_passesOn.stopsAtFailure authority s state⟩

end MemoryStore

end Tollgate
