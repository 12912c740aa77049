import Tollgate.Counter.Script
import Tollgate.Proofs.Text.Decimal

/-!
Counts that clients of one store in memory take together. Whatever lines they have to the store, and
in whatever order they come, the counts of a key follow one another without a gap, and what is
stored is the last of them. Nothing else moves a value: not a command that fails, nor one that does
not reach the store.
-/

namespace Tollgate.Counter

/-- What is stored under a key stands for a count: nothing stands for zero, the text of an integer
for that integer, and a numeral for what is read from it. -/
inductive StandsFor : Option Bytes → Int → Prop
  | absent : StandsFor none 0
  | text (c : Int) : StandsFor (some (countBytes c)) c
  | numeral {bytes : Bytes} {c : Int} (h : Ledger.count? bytes = some c) :
      StandsFor (some bytes) c

namespace Ledger

/-- The bytes of a count are read back, if the count fits. -/
theorem count?_countBytes (i : Int) :
    count? (countBytes i) =
      if Decimal.int64Min ≤ i ∧ i ≤ Decimal.int64Max then some i else none := by
  unfold count? countBytes
  rw [Utf8.decode?_encode_of_ascii (Decimal.signed_ascii i), Option.bind_some,
    Decimal.readInt64?_signed]

/-- Nothing but the count that bytes stand for is read from them. -/
theorem eq_of_standsFor {bytes : Bytes} {c n : Int} (h : StandsFor (some bytes) c)
    (hCount : count? bytes = some n) : n = c := by
  cases h with
  | text c =>
      rw [count?_countBytes] at hCount
      split at hCount
      · exact (Option.some.inj hCount).symm
      · cases hCount
  | numeral h => exact Option.some.inj (hCount.symm.trans h)

/-- The count after what stands for a count is the next one. -/
theorem next_of_standsFor {value : Option Bytes} {c n : Int} (h : StandsFor value c) {key : String}
    (hNext : next key value = .ok n) : n = c + 1 := by
  cases value with
  | none =>
      cases h
      exact (Except.ok.inj hNext).symm
  | some bytes =>
      cases hCount : count? bytes with
      | none =>
          simp only [next, hCount] at hNext
          cases hNext
      | some m =>
          simp only [next, hCount] at hNext
          split at hNext
          · cases hNext
          · rw [← eq_of_standsFor h hCount]
            exact (Except.ok.inj hNext).symm

variable {l : Ledger}

theorem run_of_unavailable (h : l.available = false) (cmd : Command) :
    l.run cmd = (.error (.storeUnavailable "memory backend marked unavailable"),
      { l with operations := l.operations + 1 }) := by
  simp [run, h]

theorem run_of_available (h : l.available = true) (cmd : Command) :
    l.run cmd = perform { l with operations := l.operations + 1 } cmd := by
  simp [run, h]

/-- An increment either takes the next count and stores it, or fails and stores nothing. -/
theorem perform_incr (l : Ledger) (key : String) :
    (∃ n : Int, next key (l.values.get? key) = .ok n ∧ (l.perform (.incr key)).1 = .ok n ∧
        (l.perform (.incr key)).2.values = l.values.put key (countBytes n)) ∨
      ∃ e, next key (l.values.get? key) = .error e ∧ l.perform (.incr key) = (.error e, l) := by
  cases hNext : next key (l.values.get? key) with
  | ok n => exact Or.inl ⟨n, rfl, by simp [perform, hNext], by simp [perform, hNext]⟩
  | error e => exact Or.inr ⟨e, rfl, by simp [perform, hNext]⟩

/-- A command that fails changes no value. -/
theorem values_run_of_error {cmd : Command} {e : Failure} (h : (l.run cmd).1 = .error e) :
    (l.run cmd).2.values = l.values := by
  cases hAvailable : l.available with
  | false => rw [run_of_unavailable hAvailable]
  | true =>
      rw [run_of_available hAvailable] at h ⊢
      cases cmd with
      | get key => rfl
      | set key value => cases h
      | delete key => cases h
      | incr key =>
          obtain ⟨n, _, hOk, _⟩ | ⟨e', _, hFailed⟩ :=
            perform_incr { l with operations := l.operations + 1 } key
          · rw [hOk] at h
            cases h
          · rw [hFailed]

theorem values_run_get (l : Ledger) (key : String) : (l.run (.get key)).2.values = l.values := by
  cases hAvailable : l.available with
  | false => rw [run_of_unavailable hAvailable]
  | true =>
      rw [run_of_available hAvailable]
      rfl

/-- An increment that counts takes the next count and stores it. -/
theorem run_incr_of_ok {key : String} {n : Int} (h : (l.run (.incr key)).1 = .ok n) :
    next key (l.values.get? key) = .ok n ∧
      (l.run (.incr key)).2.values = l.values.put key (countBytes n) := by
  cases hAvailable : l.available with
  | false =>
      rw [run_of_unavailable hAvailable] at h
      cases h
  | true =>
      rw [run_of_available hAvailable] at h ⊢
      obtain ⟨m, hNext, hOk, hValues⟩ | ⟨e, _, hFailed⟩ :=
        perform_incr { l with operations := l.operations + 1 } key
      · rw [hOk] at h
        cases h
        exact ⟨hNext, hValues⟩
      · rw [hFailed] at h
        cases h

/-- There is no count after the largest. -/
theorem run_incr_of_largest (hAvailable : l.available = true) {key : String} {bytes : Bytes}
    (hValue : l.values.get? key = some bytes) (hCount : count? bytes = some Decimal.int64Max) :
    (l.run (.incr key)).1 = .error (.invalidCount key
      (Decimal.signedText Decimal.int64Max ++ " (increment would overflow)")) := by
  rw [run_of_available hAvailable]
  simp [perform, hValue, next, hCount]

/-- The keys that a command does not write keep their values. -/
theorem get?_run_of_ne {cmd : Command} {key : String} (h : cmd.key ≠ key) :
    (l.run cmd).2.values.get? key = l.values.get? key := by
  cases hAvailable : l.available with
  | false => rw [run_of_unavailable hAvailable]
  | true =>
      rw [run_of_available hAvailable]
      cases cmd with
      | get k => rfl
      | set k value => exact (Table.get?_put _ _ _ _).trans (if_neg (Ne.symm h))
      | delete k => exact (Table.get?_erase _ _ _).trans (if_neg (Ne.symm h))
      | incr k =>
          obtain ⟨n, _, _, hValues⟩ | ⟨e, _, hFailed⟩ :=
            perform_incr { l with operations := l.operations + 1 } k
          · rw [hValues]
            exact (Table.get?_put _ _ _ _).trans (if_neg (Ne.symm h))
          · rw [hFailed]

end Ledger

/-- A failure is told, or swallowed like the lack of an answer. -/
theorem told_error (cmd : Command) (policy : FailurePolicy) (e : Failure) :
    (policy.judge (.error e)).map cmd.told = .ok (cmd.told none) ∨
      ∃ f, (policy.judge (.error e)).map cmd.told = .error f := by
  unfold FailurePolicy.judge
  simp only
  split
  · exact Or.inl rfl
  · exact Or.inr ⟨e, rfl⟩

/-- The way of a client to the store in memory. There may be none, and one that there is may be slow
or broken. -/
structure Line where
  enabled : Bool := true
  policy : FailurePolicy
  timeoutMs : Nat
  delayMs : Nat := 0
  fault : Option Failure := none

namespace Line

/-- The client at the end of a line. -/
def client (l : Line) : Client Ledger where
  backend := if l.enabled then some (Backend.memory.behind l.delayMs l.fault) else none
  policy := l.policy
  timeoutMs := l.timeoutMs

/-- A client that was not given out has no line. -/
def cut : Line where
  enabled := false
  policy := .failOpen
  timeoutMs := 0

/-- Whether commands get through: the line is there, is not too slow, and has no fault. -/
def delivers (l : Line) : Bool :=
  l.enabled && waitMs l.delayMs ≤ waitMs l.timeoutMs && l.fault.isNone

/-- A command that gets through is run, and its outcome is told as the policy says. -/
theorem runUnder_of_delivers {l : Line} (h : l.delivers) (policy : FailurePolicy) (cmd : Command)
    (s : Ledger) :
    l.client.runUnder policy cmd s =
      ((policy.judge (s.run cmd).1).map cmd.told, (s.run cmd).2) := by
  obtain ⟨enabled, ownPolicy, timeoutMs, delayMs, fault⟩ := l
  simp only [delivers, Bool.and_eq_true, decide_eq_true_eq, Option.isNone_iff_eq_none] at h
  obtain ⟨⟨rfl, hInTime⟩, rfl⟩ := h
  simp [client, Client.runUnder, Backend.behind, Backend.memory, Nat.not_lt.2 hInTime]

/-- A command that does not get through leaves the store as it is, and nothing is told of it. -/
theorem runUnder_of_not_delivers {l : Line} (h : l.delivers = false) (policy : FailurePolicy)
    (cmd : Command) (s : Ledger) :
    (l.client.runUnder policy cmd s).2 = s ∧
      ((l.client.runUnder policy cmd s).1 = .ok (cmd.told none) ∨
        ∃ e, (l.client.runUnder policy cmd s).1 = .error e) := by
  obtain ⟨enabled, ownPolicy, timeoutMs, delayMs, fault⟩ := l
  cases enabled with
  | false => exact ⟨rfl, Or.inl rfl⟩
  | true =>
      simp only [client, if_true, Client.runUnder, Backend.behind]
      by_cases hLate : waitMs timeoutMs < waitMs delayMs
      · simp only [hLate, if_true, Option.getD_none, true_and]
        exact told_error cmd policy _
      · cases fault with
        | some f =>
            simp only [hLate, if_false, Option.getD_some, true_and]
            exact told_error cmd policy _
        | none => simp [delivers, Nat.not_lt.1 hLate] at h

end Line

/-- The command to the store that an event is about. -/
def Event.command? (today : Date) : Event → Option Command
  | .op (.run _ _ cmd) | .direct cmd => some cmd
  | .op (.incrementDaily _ service) => some (.incr (dailyKey today service))
  | .op (.dailyCount _ service) => some (.get (dailyKey today service))
  | .setAvailable _ => none

/-- Whether the command of an event gets to the store. -/
def Event.delivered (lines : List Line) : Event → Bool
  | .op (.run i _ _) | .op (.incrementDaily i _) | .op (.dailyCount i _) =>
    (lines.getD i .cut).delivers
  | .direct _ | .setAvailable _ => true

/-- The count that a reply tells. -/
def Reply.count? : Reply → Option Int
  | .told (.incr _) (.ok n) => n
  | .count (.ok n) => n
  | .answered (.incr _) (.ok n) => some n
  | _ => none

/-- Whether a reply tells a failure. -/
def Reply.failed : Reply → Bool
  | .told _ (.error _) | .count (.error _) | .answered _ (.error _) => true
  | _ => false

/-- A reply reports what the store answers to a command, as the policy of a client says or as it is.
-/
inductive Reply.Reports : (cmd : Command) → Outcome cmd.Answer → Reply → Prop
  | told {cmd : Command} {a : Outcome cmd.Answer} (policy : FailurePolicy) :
      Reports cmd a (.told cmd ((policy.judge a).map cmd.told))
  | count {key : String} {a : Outcome Int} (policy : FailurePolicy) :
      Reports (.incr key) a (.count ((policy.judge a).map (Command.incr key).told))
  | found {key : String} {a : Outcome (Option Bytes)} (policy : FailurePolicy) :
      Reports (.get key) a
        (.count ((policy.judge a).map (Command.get key).told >>= readCount key))
  | answered {cmd : Command} {a : Outcome cmd.Answer} : Reports cmd a (.answered cmd a)

namespace Reply.Reports

variable {cmd : Command} {reply : Reply}

/-- A reply to an increment tells the count that was taken, if one was. -/
theorem count? {key : String} {a : Outcome Int} (h : reply.Reports (.incr key) a) :
    reply.count? = a.toOption := by
  cases a with
  | ok n =>
      cases h with
      | told policy | count policy | answered => rfl
  | error f =>
      cases h with
      | answered => rfl
      | told policy =>
          obtain hTold | ⟨f, hTold⟩ := told_error (.incr key) policy f
          all_goals exact congrArg (fun outcome => (Reply.told (.incr key) outcome).count?) hTold
      | count policy =>
          obtain hTold | ⟨f, hTold⟩ := told_error (.incr key) policy f
          all_goals exact congrArg (fun outcome => (Reply.count outcome).count?) hTold

/-- Where the store answers to a command other than a reading one, no failure is told. -/
theorem not_failed {a : cmd.Answer} (h : reply.Reports cmd (.ok a)) (hGet : ∀ key, cmd ≠ .get key) :
    reply.failed = false := by
  cases h with
  | told policy | count policy | answered => rfl
  | found policy => exact absurd rfl (hGet _)

/-- No policy swallows a failure that does not pass. -/
theorem failed {f : Failure} (h : reply.Reports cmd (.error f))
    (hLasting : f.isRecoverable = false) : reply.failed := by
  have hTold (cmd : Command) (policy : FailurePolicy) :
      (policy.judge (.error f)).map cmd.told = .error f := by
    simp [FailurePolicy.judge, hLasting, Except.map]
  cases h with
  | told policy =>
      exact congrArg (fun outcome => (Reply.told cmd outcome).failed) (hTold cmd policy)
  | count policy =>
      exact congrArg (fun outcome => (Reply.count outcome).failed) (hTold (.incr _) policy)
  | found policy =>
      exact congrArg (fun outcome : Outcome (Option Bytes) =>
        (Reply.count (outcome >>= readCount _)).failed) (hTold (.get _) policy)
  | answered => rfl

end Reply.Reports

/-- The clients at the ends of these lines, with the store that they share. -/
def system (lines : List Line) (store : Ledger) (today : Date) : System Ledger where
  clients := lines.map Line.client
  store := store
  today := today

namespace System

/-- The command with which an event takes effect: one that gets to the store while that is
available. -/
def effect? (lines : List Line) (s : System Ledger) (e : Event) : Option Command :=
  if e.delivered lines && s.store.available then e.command? s.today else none

/-- The count of a key that an event tells. -/
def told? (key : String) (s : System Ledger) (e : Event) : Option Int :=
  if e.command? s.today = some (.incr key) then (s.happen e).1.count? else none

theorem client_of_lines {lines : List Line} {s : System Ledger}
    (h : s.clients = lines.map Line.client) (i : Nat) :
    s.client i = (lines.getD i .cut).client := by
  have hCut : (Client.disabled : Client Ledger) = Line.cut.client := rfl
  rw [client, h, hCut, List.getD_eq_getElem?_getD, List.getD_eq_getElem?_getD, List.getElem?_map]
  cases lines[i]? <;> rfl

theorem clients_happen (s : System Ledger) (e : Event) : (s.happen e).2.clients = s.clients := by
  cases e with
  | op op => cases op <;> rfl
  | setAvailable available => rfl
  | direct cmd => rfl

variable {lines : List Line} {s : System Ledger} {e : Event}

/-- A command that gets to the store is run there, and the reply reports its outcome. -/
theorem happen_of_delivered (h : s.clients = lines.map Line.client)
    (hDelivered : e.delivered lines) {cmd : Command} (hCommand : e.command? s.today = some cmd) :
    (s.happen e).2.store = (s.store.run cmd).2 ∧
      (s.happen e).1.Reports cmd (s.store.run cmd).1 := by
  match e with
  | .op (.run i policy cmd') =>
      obtain rfl := Option.some.inj hCommand
      simp only [happen, step, client_of_lines h, Line.runUnder_of_delivers hDelivered, true_and]
      exact .told _
  | .op (.incrementDaily i service) =>
      obtain rfl := Option.some.inj hCommand
      simp only [happen, step, Client.incrementDaily, Client.run, client_of_lines h,
        Line.runUnder_of_delivers hDelivered, true_and]
      exact .count _
  | .op (.dailyCount i service) =>
      obtain rfl := Option.some.inj hCommand
      simp only [happen, step, Client.dailyCount, Client.run, client_of_lines h,
        Line.runUnder_of_delivers hDelivered, true_and]
      exact .found _
  | .direct cmd' =>
      obtain rfl := Option.some.inj hCommand
      exact ⟨rfl, .answered⟩
  | .setAvailable available => cases hCommand

/-- An event whose command does not get to the store leaves that as it is, and tells no count. -/
theorem happen_of_not_delivered (h : s.clients = lines.map Line.client)
    (hDelivered : e.delivered lines = false) :
    (s.happen e).2.store = s.store ∧
      ∀ key, e.command? s.today = some (.incr key) → (s.happen e).1.count? = none := by
  match e with
  | .op (.run i policy cmd) =>
      simp only [happen, step, client_of_lines h]
      obtain ⟨hStore, hTold⟩ := Line.runUnder_of_not_delivers hDelivered
        (policy.getD (lines.getD i .cut).client.policy) cmd s.store
      refine ⟨hStore, fun key hKey => ?_⟩
      obtain rfl := Option.some.inj hKey
      obtain hTold | ⟨f, hTold⟩ := hTold
      all_goals exact congrArg (fun outcome => (Reply.told (.incr key) outcome).count?) hTold
  | .op (.incrementDaily i service) =>
      simp only [happen, step, Client.incrementDaily, Client.run, client_of_lines h]
      obtain ⟨hStore, hTold⟩ := Line.runUnder_of_not_delivers hDelivered
        (lines.getD i .cut).client.policy (.incr (dailyKey s.today service)) s.store
      refine ⟨hStore, fun key _ => ?_⟩
      obtain hTold | ⟨f, hTold⟩ := hTold
      all_goals exact congrArg (fun outcome => (Reply.count outcome).count?) hTold
  | .op (.dailyCount i service) =>
      simp only [happen, step, Client.dailyCount, Client.run, client_of_lines h]
      refine ⟨(Line.runUnder_of_not_delivers hDelivered _ _ _).1, fun key hKey => ?_⟩
      cases Option.some.inj hKey
  | .direct cmd | .setAvailable available => cases hDelivered

/-- An event that has no effect on the store changes no value and tells no count of a key. -/
theorem happen_of_no_effect (h : s.clients = lines.map Line.client)
    (hEffect : s.effect? lines e = none) :
    (s.happen e).2.store.values = s.store.values ∧ ∀ key, s.told? key e = none := by
  cases hDelivered : e.delivered lines with
  | false =>
      obtain ⟨hStore, hCount⟩ := happen_of_not_delivered h hDelivered
      refine ⟨by rw [hStore], fun key => ?_⟩
      unfold told?
      split
      · next hKey => exact hCount key hKey
      · rfl
  | true =>
      cases hCommand : e.command? s.today with
      | none =>
          refine ⟨?_, fun key => by simp [told?, hCommand]⟩
          match e with
          | .setAvailable available => rfl
      | some cmd =>
          have hAvailable : s.store.available = false := by
            simpa [effect?, hDelivered, hCommand] using hEffect
          obtain ⟨hStore, hReports⟩ := happen_of_delivered h hDelivered hCommand
          rw [Ledger.run_of_unavailable hAvailable] at hStore hReports
          refine ⟨by rw [hStore], fun key => ?_⟩
          unfold told?
          split
          · next hKey =>
              rw [hCommand] at hKey
              obtain rfl := Option.some.inj hKey
              exact hReports.count?
          · rfl

/-- The command of an effect is run. -/
theorem happen_of_effect (h : s.clients = lines.map Line.client) {cmd : Command}
    (hEffect : s.effect? lines e = some cmd) :
    s.store.available ∧ e.command? s.today = some cmd ∧
      (s.happen e).2.store = (s.store.run cmd).2 ∧
      (s.happen e).1.Reports cmd (s.store.run cmd).1 := by
  unfold effect? at hEffect
  split at hEffect
  · next hWay =>
      obtain ⟨hDelivered, hAvailable⟩ := Bool.and_eq_true_iff.1 hWay
      exact ⟨hAvailable, hEffect, happen_of_delivered h hDelivered hEffect⟩
  · cases hEffect

/-- An event whose reply is a failure changes no value. -/
theorem values_happen_of_failed (h : s.clients = lines.map Line.client)
    (hFailed : (s.happen e).1.failed) : (s.happen e).2.store.values = s.store.values := by
  cases hEffect : s.effect? lines e with
  | none => exact (happen_of_no_effect h hEffect).1
  | some cmd =>
      obtain ⟨_, _, hStore, hReports⟩ := happen_of_effect h hEffect
      rw [hStore]
      cases hRun : (s.store.run cmd).1 with
      | error f => exact Ledger.values_run_of_error hRun
      | ok a =>
          by_cases hGet : ∃ key, cmd = .get key
          · obtain ⟨key, rfl⟩ := hGet
            exact Ledger.values_run_get _ _
          · rw [hRun] at hReports
            rw [hReports.not_failed fun key hKey => hGet ⟨key, hKey⟩] at hFailed
            cases hFailed

/-- An increment past the largest count fails and changes no value. -/
theorem happen_of_largest (h : s.clients = lines.map Line.client) {key : String} {bytes : Bytes}
    (hEffect : s.effect? lines e = some (.incr key))
    (hValue : s.store.values.get? key = some bytes)
    (hCount : Ledger.count? bytes = some Decimal.int64Max) :
    (s.happen e).1.failed ∧ (s.happen e).2.store.values = s.store.values := by
  obtain ⟨hAvailable, _, hStore, hReports⟩ := happen_of_effect h hEffect
  have hRun := Ledger.run_incr_of_largest hAvailable hValue hCount
  refine ⟨?_, by rw [hStore, Ledger.values_run_of_error hRun]⟩
  rw [hRun] at hReports
  exact hReports.failed rfl

end System

/-- The command replaces or removes the value under a key. -/
def Command.Overwrites (key : String) : Command → Prop
  | .set k _ | .delete k => k = key
  | .get _ | .incr _ => False

/-- A command that does not overwrite a key and is no increment of it leaves its value. -/
theorem Ledger.get?_run {l : Ledger} {cmd : Command} {key : String}
    (hSpared : ¬cmd.Overwrites key) (hIncr : cmd ≠ .incr key) :
    (l.run cmd).2.values.get? key = l.values.get? key := by
  by_cases hKey : cmd.key = key
  · cases cmd with
    | get k => rw [values_run_get]
    | set k value => exact absurd hKey hSpared
    | delete k => exact absurd hKey hSpared
    | incr k => exact absurd (congrArg Command.incr hKey) hIncr
  · exact get?_run_of_ne hKey

namespace System

variable {lines : List Line} {s : System Ledger} {e : Event}

/-- An event that does not overwrite a key tells the next count of it and stores that, or tells no
count of it and leaves its value. -/
theorem happen_counts (h : s.clients = lines.map Line.client) {key : String} {c : Int}
    (hStands : StandsFor (s.store.values.get? key) c)
    (hSpared : ∀ cmd, s.effect? lines e = some cmd → ¬cmd.Overwrites key) :
    (s.told? key e = some (c + 1) ∧
        (s.happen e).2.store.values.get? key = some (countBytes (c + 1))) ∨
      (s.told? key e = none ∧
        (s.happen e).2.store.values.get? key = s.store.values.get? key) := by
  cases hEffect : s.effect? lines e with
  | none =>
      obtain ⟨hValues, hTold⟩ := happen_of_no_effect h hEffect
      exact Or.inr ⟨hTold key, by rw [hValues]⟩
  | some cmd =>
      obtain ⟨_, hCommand, hStore, hReports⟩ := happen_of_effect h hEffect
      rw [told?, hCommand, hStore]
      by_cases hIncr : cmd = .incr key
      · subst hIncr
        rw [if_pos rfl, hReports.count?]
        cases hRun : (s.store.run (.incr key)).1 with
        | ok n =>
            obtain ⟨hNext, hValues⟩ := Ledger.run_incr_of_ok hRun
            obtain rfl := Ledger.next_of_standsFor hStands hNext
            refine Or.inl ⟨rfl, ?_⟩
            rw [hValues, Table.get?_put, if_pos rfl]
        | error f => exact Or.inr ⟨rfl, by rw [Ledger.values_run_of_error hRun]⟩
      · rw [if_neg fun hSame => hIncr (Option.some.inj hSame)]
        exact Or.inr ⟨rfl, Ledger.get?_run (hSpared cmd hEffect) hIncr⟩

/-- The moments of a run, in which each event happens on its day: the state before each event, and
the event. -/
def moments (s : System Ledger) : List (Date × Event) → List (System Ledger × Event)
  | [] => []
  | (day, e) :: run =>
    let s := { s with today := day }
    (s, e) :: (s.happen e).2.moments run

/-- The state after a run. -/
def after (s : System Ledger) : List (Date × Event) → System Ledger
  | [] => s
  | (day, e) :: run => ({ s with today := day }.happen e).2.after run

/-- The commands that take effect in a run. -/
def effects (lines : List Line) (s : System Ledger) (run : List (Date × Event)) : List Command :=
  (s.moments run).filterMap fun m => m.1.effect? lines m.2

/-- The counts of a key that are told in a run. -/
def counted (key : String) (s : System Ledger) (run : List (Date × Event)) : List Int :=
  (s.moments run).filterMap fun m => m.1.told? key m.2

theorem counted_of_told {key : String} {day : Date} {n : Int} {run : List (Date × Event)}
    (h : told? key { s with today := day } e = some n) :
    s.counted key ((day, e) :: run) =
      n :: counted key (happen { s with today := day } e).2 run := by
  simp only [counted, moments, List.filterMap_cons, h]

theorem counted_of_not_told {key : String} {day : Date} {run : List (Date × Event)}
    (h : told? key { s with today := day } e = none) :
    s.counted key ((day, e) :: run) = counted key (happen { s with today := day } e).2 run := by
  simp only [counted, moments, List.filterMap_cons, h]

/-- The numbers from one on are the first of them and those from the next one on. -/
theorem map_range_succ (c : Int) (n : Nat) :
    (List.range (n + 1)).map (fun i : Nat => c + 1 + i) =
      (c + 1) :: (List.range n).map (fun i : Nat => c + 1 + 1 + i) := by
  rw [List.range_succ_eq_map, List.map_cons, List.map_map]
  refine List.cons_eq_cons.2 ⟨by omega, List.map_congr_left fun i _ => ?_⟩
  simp only [Function.comp_apply]
  omega

/-- What is stored under a key, which stood for a count, once so many more were counted. -/
def tally (start : Option Bytes) (c : Int) (n : Nat) : Option Bytes :=
  if n = 0 then start else some (countBytes (c + n))

theorem tally_succ (start : Option Bytes) (c : Int) (n : Nat) :
    tally start c (n + 1) = tally (some (countBytes (c + 1))) (c + 1) n := by
  unfold tally
  rw [if_neg (Nat.succ_ne_zero n)]
  split
  · next h => simp [h]
  · exact congrArg (fun i => some (countBytes i)) (by omega)

/-- The counts of a key that are told in a run are the next ones, in order, and what is stored in
the end is the last of them. -/
theorem counted_run (h : s.clients = lines.map Line.client) {key : String} {c : Int}
    (hStands : StandsFor (s.store.values.get? key) c) (run : List (Date × Event))
    (hSpared : ∀ cmd ∈ s.effects lines run, ¬cmd.Overwrites key) :
    s.counted key run = (List.range (s.counted key run).length).map (fun i : Nat => c + 1 + i) ∧
      (s.after run).store.values.get? key =
        tally (s.store.values.get? key) c (s.counted key run).length := by
  -- Each count that is told moves `c` on, and what is stored then stands for the next one.
  induction run generalizing s c with
  | nil => exact ⟨rfl, rfl⟩
  | cons next run ih =>
      obtain ⟨day, e⟩ := next
      have hClients : (happen { s with today := day } e).2.clients = lines.map Line.client :=
        (clients_happen _ e).trans h
      have hFirst : ∀ cmd, effect? lines { s with today := day } e = some cmd →
          ¬cmd.Overwrites key := fun cmd hEffect =>
        hSpared cmd (List.mem_filterMap.2 ⟨_, List.mem_cons_self, hEffect⟩)
      have hLater : ∀ cmd ∈ effects lines (happen { s with today := day } e).2 run,
          ¬cmd.Overwrites key := fun cmd hCmd => by
        obtain ⟨m, hm, hEffect⟩ := List.mem_filterMap.1 hCmd
        exact hSpared cmd (List.mem_filterMap.2 ⟨m, List.mem_cons_of_mem _ hm, hEffect⟩)
      obtain ⟨hTold, hValue⟩ | ⟨hTold, hValue⟩ :=
        happen_counts (s := { s with today := day }) h hStands hFirst
      · obtain ⟨hCounts, hStored⟩ := ih hClients (hValue ▸ StandsFor.text (c + 1)) hLater
        rw [counted_of_told hTold, List.length_cons, map_range_succ, ← hCounts]
        refine ⟨rfl, ?_⟩
        rw [tally_succ, ← hValue]
        exact hStored
      · obtain ⟨hCounts, hStored⟩ := ih hClients (hValue ▸ hStands) hLater
        rw [counted_of_not_told hTold]
        refine ⟨hCounts, ?_⟩
        rw [hValue] at hStored
        exact hStored

/-- The clients stay the same at every moment of a run. -/
theorem clients_of_mem_moments {m : System Ledger × Event} {run : List (Date × Event)}
    (h : m ∈ s.moments run) : m.1.clients = s.clients := by
  induction run generalizing s with
  | nil => cases h
  | cons next run ih =>
      rcases List.mem_cons.1 h with rfl | h
      · rfl
      · exact (ih h).trans (clients_happen _ next.2)

/-- What clients that share a store make of a key, whatever they do in whatever order. In a run
without an overwriting of the key that takes effect, the counts that are told are the next ones, in
order, and what is stored is the last of them. No value changes at a moment when an event fails,
when it has no effect on the store, or when it would count past the largest count, which fails. -/
structure CountsExactly (lines : List Line) (key : String) (s : System Ledger) : Prop where
  counts : ∀ (c : Int) (run : List (Date × Event)), StandsFor (s.store.values.get? key) c →
    (∀ cmd ∈ s.effects lines run, ¬cmd.Overwrites key) →
    s.counted key run = (List.range (s.counted key run).length).map fun i : Nat => c + 1 + i
  stored : ∀ (c : Int) (run : List (Date × Event)), StandsFor (s.store.values.get? key) c →
    (∀ cmd ∈ s.effects lines run, ¬cmd.Overwrites key) →
    (s.after run).store.values.get? key =
      tally (s.store.values.get? key) c (s.counted key run).length
  failed : ∀ run, ∀ m ∈ s.moments run, (m.1.happen m.2).1.failed →
    (m.1.happen m.2).2.store.values = m.1.store.values
  noEffect : ∀ run, ∀ m ∈ s.moments run, m.1.effect? lines m.2 = none →
    (m.1.happen m.2).2.store.values = m.1.store.values
  largest : ∀ run, ∀ m ∈ s.moments run, m.1.effect? lines m.2 = some (.incr key) →
    (m.1.store.values.get? key).bind Ledger.count? = some Decimal.int64Max →
    (m.1.happen m.2).1.failed ∧ (m.1.happen m.2).2.store.values = m.1.store.values

end System

/-- Exact counting by any number of clients of one store in memory, each at the end of any line, in
every order of their operations and of switches of the store, on any days. -/
theorem counts_exactly (lines : List Line) (store : Ledger) (today : Date) (key : String) :
    (system lines store today).CountsExactly lines key where
  counts c run hStands hSpared := (System.counted_run rfl hStands run hSpared).1
  stored c run hStands hSpared := (System.counted_run rfl hStands run hSpared).2
  failed run m hm := System.values_happen_of_failed (System.clients_of_mem_moments hm)
  noEffect run m hm hEffect :=
    (System.happen_of_no_effect (System.clients_of_mem_moments hm) hEffect).1
  largest run m hm hEffect hLargest := by
    obtain ⟨bytes, hValue, hCount⟩ := Option.bind_eq_some_iff.1 hLargest
    exact System.happen_of_largest (System.clients_of_mem_moments hm) hEffect hValue hCount

/-- The count goes on past an outage, a late client and one without a store. -/
theorem counts_exactly_outage :
    let lines : List Line := [{ policy := .failOpen, timeoutMs := 5 },
      { policy := .failOpen, timeoutMs := 5, delayMs := 6 }, .cut]
    let s := system lines {} .epoch
    let run := [.op (.run 0 none (.incr "k")), .op (.run 1 none (.incr "k")),
      .op (.run 2 none (.set "k" [])), .setAvailable false, .op (.run 0 none (.incr "k")),
      .setAvailable true, .op (.run 0 (some .failClosed) (.incr "k"))].map fun e => (.epoch, e)
    s.counted "k" run = [1, 2] ∧ (s.after run).store.values.get? "k" = some (countBytes 2) := by
  intro lines s run
  have hSpared : ∀ cmd ∈ s.effects lines run, ¬cmd.Overwrites "k" := by
    have hEffects : s.effects lines run = [.incr "k", .incr "k"] := by decide +kernel
    rw [hEffects]
    simp [Command.Overwrites]
  have hCounted : s.counted "k" run = [1, 2] := by decide +kernel
  refine ⟨hCounted, ?_⟩
  have hStored := (counts_exactly lines {} .epoch "k").stored 0 run .absent hSpared
  rw [hStored, hCounted]
  rfl

end Tollgate.Counter
