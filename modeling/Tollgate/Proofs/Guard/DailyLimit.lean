import Tollgate.Guard.Machine
import Tollgate.Proofs.Counter.Counts
import Tollgate.Proofs.Counter.Key
import Tollgate.Proofs.Guard.Parts
import Tollgate.Proofs.Guard.Remembered

/-!
What limits come to where several guards count in one store. The count of a service on a day goes up
by one with every check, admitted or not, whichever guard makes it. So the checks see consecutive
counts, and a limit that all of them share admits as many as it has room for. Calls for other
services, and for other days, count under other keys.
-/

namespace Tollgate

namespace Counter

/-- The count stored under a key, if what is stored is one. Nothing counts as zero. -/
def Ledger.stored? (l : Ledger) (key : String) : Option Int :=
  (l.values.get? key).elim (some 0) count?

namespace Ledger

variable {l : Ledger} {key : String} {c : Int}

theorem range_of_stored? (h : l.stored? key = some c) :
    Decimal.int64Min ≤ c ∧ c ≤ Decimal.int64Max := by
  unfold stored? at h
  cases hValue : l.values.get? key with
  | none =>
      rw [hValue] at h
      obtain rfl := Option.some.inj h
      decide
  | some bytes =>
      rw [hValue] at h
      obtain ⟨cs, _, hRead⟩ := Option.bind_eq_some_iff.1 h
      exact Decimal.range_of_readInt64? hRead

theorem available_run (l : Ledger) (cmd : Command) : (l.run cmd).2.available = l.available := by
  cases hAvailable : l.available with
  | false =>
      rw [run_of_unavailable hAvailable]
      exact hAvailable
  | true =>
      rw [run_of_available hAvailable]
      cases cmd with
      | get key | set key value | delete key => exact hAvailable
      | incr key =>
          simp only [perform]
          split <;> exact hAvailable

/-- Below the largest count, an increment takes the next one and stores it. -/
theorem run_incr_of_stored? (hAvailable : l.available) (h : l.stored? key = some c)
    (hRoom : c < Decimal.int64Max) :
    (l.run (.incr key)).1 = .ok (c + 1) ∧ (l.run (.incr key)).2.stored? key = some (c + 1) := by
  have hNext : next key (l.values.get? key) = .ok (c + 1) := by
    unfold stored? at h
    cases hValue : l.values.get? key with
    | none =>
        rw [hValue] at h
        obtain rfl := Option.some.inj h
        rfl
    | some bytes =>
        rw [hValue] at h
        have hCount : count? bytes = some c := h
        simp only [next, hCount]
        exact if_neg (by omega)
  have hRange := range_of_stored? h
  have hText : count? (countBytes (c + 1)) = some (c + 1) := by
    rw [count?_countBytes]
    exact if_pos (by omega)
  rw [run_of_available hAvailable]
  simp only [perform, hNext, stored?, Table.get?_put, if_pos]
  exact ⟨rfl, hText⟩

/-- At the largest count, an increment fails and stores nothing. -/
theorem run_incr_of_stored?_largest (hAvailable : l.available)
    (h : l.stored? key = some Decimal.int64Max) :
    (∃ text, (l.run (.incr key)).1 = .error (.invalidCount key text)) ∧
      (l.run (.incr key)).2.stored? key = some Decimal.int64Max := by
  have hFailed : ∃ text, (l.run (.incr key)).1 = .error (.invalidCount key text) := by
    unfold stored? at h
    cases hValue : l.values.get? key with
    | none =>
        rw [hValue] at h
        cases h
    | some bytes =>
        rw [hValue] at h
        exact ⟨_, run_incr_of_largest hAvailable hValue h⟩
  refine ⟨hFailed, ?_⟩
  obtain ⟨text, hText⟩ := hFailed
  rw [stored?, values_run_of_error hText]
  exact h

/-- A command leaves the counts under other keys as they are. -/
theorem stored?_run_of_ne {cmd : Command} (h : cmd.key ≠ key) :
    (l.run cmd).2.stored? key = l.stored? key := by
  rw [stored?, stored?, get?_run_of_ne h]

end Ledger

end Counter

namespace Guard

open Counter (Command Ledger Line dailyKey)

variable {C S A D : Type}

section Counts

variable {B : Type}

/-- The command that a call gives to the counter store, if it gives one. -/
def Call.command? (today : Date) : Call → Option Command
  | .incrementDaily s | .checkLimit s _ => some (.incr (dailyKey today s))
  | .dailyCount s => some (.get (dailyKey today s))
  | .setDaily s value => some (.set (dailyKey today s) value)
  | .apiKeys _ | .permissions _ | .isActive _ | .prime _ | .authorize _ _ | .readReplica _ => none

/-- The plan leaves the counts as they are. -/
def Plan.CountsNothing (g : Guard C S B) (p : Plan A) : Prop :=
  ∀ x, (g.alone p x).2.counts = x.counts

namespace Plan.CountsNothing

variable {g : Guard C S B}

theorem done (outcome : Outcome A) : (Plan.done outcome).CountsNothing g :=
  fun _ => rfl

theorem followedBy {p : Plan A} {f : Outcome A → Plan D} (hp : p.CountsNothing g)
    (hf : ∀ outcome, (f outcome).CountsNothing g) : (p.followedBy f).CountsNothing g := by
  intro x
  rw [alone_followedBy, hf, hp]

theorem lookup (c : Concern) (s : ServiceId) : (Plan.lookup c s).CountsNothing g := by
  intro x
  cases hLive : x.live? c s with
  | some fact =>
      rw [alone_lookup_of_live g hLive]
      rfl
  | none =>
      rw [alone_lookup_of_not_live g hLive]
      unfold settled
      split
      · rfl
      · split <;> rfl

theorem fetch (s : ServiceId) (fetch : Fetch A) : (Plan.fetch s fetch).CountsNothing g := by
  induction fetch with
  | done outcome => exact .done outcome
  | ask q next ih =>
      intro x
      rw [Plan.fetch, alone_ask_replica, ih]
      rfl

end Plan.CountsNothing

/-- A call without a command leaves the counts alone. -/
theorem Call.plan_countsNothing (g : Guard C S B) (present : Present) {call : Call}
    (h : call.command? present.today = none) :
    (call.plan present g.joined).CountsNothing g := by
  have hMap {A D : Type} {p : Plan A} (f : A → D) (hp : p.CountsNothing g) :
      (p.map f).CountsNothing g := hp.followedBy fun _ => .done _
  cases call with
  | apiKeys s => exact hMap _ (hMap _ (.lookup .apiKeys s))
  | permissions s => exact hMap _ (hMap _ (.lookup .permissions s))
  | isActive s => exact hMap _ (.lookup .serviceActive s)
  | readReplica s => exact hMap _ (Plan.CountsNothing.fetch s (.single (.fact .serviceActive)))
  | prime s =>
      refine hMap _ ((Plan.CountsNothing.fetch s _).followedBy fun outcome => ?_)
      match outcome with
      | .error e => exact .done _
      | .ok none => exact .done _
      | .ok (some snapshot) => exact fun _ => rfl
  | authorize s permission =>
      refine hMap _ ((Plan.evaluate_of_parts (P := fun p => p.CountsNothing g) .done
        (fun _ _ => .followedBy) .lookup present.now s permission).followedBy fun outcome => ?_)
      cases outcome with
      | ok service => exact .done _
      | error e =>
          simp only
          split
          · exact .done _
          · exact fun _ => rfl
  | incrementDaily s | checkLimit s limit | dailyCount s | setDaily s value => cases h

/-- A call changes the counts by its command and not otherwise. -/
theorem counts_alone_call (g : Guard C S B) (present : Present) (call : Call) (x : Scene C S B) :
    (g.alone (call.plan present g.joined) x).2.counts =
      (call.command? present.today).elim x.counts fun cmd => (g.counters.run cmd x.counts).2 := by
  cases hCommand : call.command? present.today with
  | none => exact Call.plan_countsNothing g present hCommand x
  | some cmd =>
      cases call with
      | apiKeys | permissions | isActive | prime | authorize | readReplica => cases hCommand
      | incrementDaily s | dailyCount s | setDaily s value =>
          obtain rfl := Option.some.inj hCommand
          rfl
      | checkLimit s limit =>
          obtain rfl := Option.some.inj hCommand
          simp only [Call.plan, Plan.checkLimit, Plan.incrementDaily, alone_map, alone_andThen,
            alone, Scene.count]
          split
          · split
            · rfl
            · split <;> rfl
          · rfl

end Counts

/-- The verdict on the send of a service that is the `n`-th of its day. -/
def verdict (s : ServiceId) (limit n : Int) : Outcome Reply :=
  if n ≤ limit then .ok (.admitted n) else .error (.limitExceeded s limit)

/-- A check that is told a count goes by it. -/
theorem alone_checkLimit {B : Type} {g : Guard C S B} {present : Present} {s : ServiceId} {n : Int}
    {x : Scene C S B}
    (h : (g.counters.run (.incr (dailyKey present.today s)) x.counts).1 = .ok (some n))
    (limit : Int) :
    (g.alone ((Call.checkLimit s limit).plan present g.joined) x).1 = verdict s limit n := by
  simp only [Call.plan, Plan.checkLimit, Plan.incrementDaily, alone_map, alone_andThen, alone,
    Scene.count, h, verdict]
  by_cases hLimit : limit < n
  · simp only [if_pos hLimit, if_neg (Int.not_le.2 hLimit)]
    rfl
  · simp only [if_neg hLimit, if_pos (Int.not_lt.1 hLimit)]
    rfl

/-- A check never waits: where calls overlap, its first turn brings it to the end that it comes to
alone. -/
theorem turn_checkLimit {B : Type} (g : Guard C S B) (id : TaskId) (present : Present)
    (s : ServiceId) (limit : Int) (f : Floor C S B) :
    g.turn id { phase := .ready ((Call.checkLimit s limit).plan present g.joined) } f =
      ({ phase := .finished
          (g.alone ((Call.checkLimit s limit).plan present g.joined) f.scene).1 },
        { f with
          scene := (g.alone ((Call.checkLimit s limit).plan present g.joined) f.scene).2 }) := by
  simp only [turn, Call.plan, Plan.checkLimit, Plan.incrementDaily, Plan.map, Plan.andThen,
    Plan.followedBy, proceed, alone]
  generalize f.scene.count g.counters (.incr (dailyKey present.today s)) = counted
  obtain ⟨outcome, scene⟩ := counted
  cases outcome with
  | error e => rfl
  | ok told =>
      change Option Int at told
      cases told with
      | none => rfl
      | some n =>
          simp only
          split <;> rfl

/-- Guards that count in one store, each with a scene of its own but for the counts. -/
structure Fleet (C S : Type) (size : Nat) where
  guards : Fin size → Guard C S Ledger
  scenes : Fin size → Scene C S Ledger
  store : Ledger

namespace Fleet

variable {size : Nat}

/-- What happens to a fleet: a call to one of its guards, or a command that somebody else gives to
the store. -/
inductive Request (size : Nat)
  | toGuard (member : Fin size) (present : Present) (call : Call)
  | toStore (cmd : Command)

/-- The limit that a request checks for a service on a day, if it does. -/
def Request.limit? (today : Date) (s : ServiceId) : Request size → Option Int
  | .toGuard _ present (.checkLimit r limit) =>
    if r = s ∧ present.today = today then some limit else none
  | _ => none

/-- The command that a request gives to the store, if it gives one. -/
def Request.command? : Request size → Option Command
  | .toGuard _ present call => call.command? present.today
  | .toStore cmd => some cmd

/-- The request writes the count of a service on a day, and not by checking a limit. -/
def Request.Meddles (today : Date) (s : ServiceId) : Request size → Prop
  | .toGuard _ present (.incrementDaily r) | .toGuard _ present (.setDaily r _) =>
    r = s ∧ present.today = today
  | .toGuard _ _ _ => False
  | .toStore cmd => cmd.Overwrites (dailyKey today s) ∨ cmd = .incr (dailyKey today s)

/-- Keys are not shared, so no other request writes the count. -/
theorem Request.spares {today : Date} {s : ServiceId} (r : Request size)
    (hCheck : r.limit? today s = none) (hMeddles : ¬r.Meddles today s) {cmd : Command}
    (hCommand : r.command? = some cmd) :
    ¬cmd.Overwrites (dailyKey today s) ∧ cmd ≠ .incr (dailyKey today s) := by
  match r with
  | .toStore cmd' =>
      obtain rfl := Option.some.inj hCommand
      exact not_or.1 hMeddles
  | .toGuard _ present (.incrementDaily r') =>
      obtain rfl := Option.some.inj hCommand
      exact ⟨id, fun hSame => hMeddles (Counter.dailyKey_inj (Command.incr.inj hSame))⟩
  | .toGuard _ present (.setDaily r' value) =>
      obtain rfl := Option.some.inj hCommand
      exact ⟨fun hSame => hMeddles (Counter.dailyKey_inj hSame), nofun⟩
  | .toGuard _ present (.checkLimit r' limit) =>
      obtain rfl := Option.some.inj hCommand
      refine ⟨id, fun hSame => ?_⟩
      simp only [limit?, if_pos (Counter.dailyKey_inj (Command.incr.inj hSame))] at hCheck
      cases hCheck
  | .toGuard _ present (.dailyCount r') =>
      obtain rfl := Option.some.inj hCommand
      exact ⟨id, nofun⟩

/-- Serves one request. Only a call has an outcome. -/
def serve (f : Fleet C S size) : Request size → Option (Outcome Reply) × Fleet C S size
  | .toGuard i present call =>
    let g := f.guards i
    let (outcome, x) := g.alone (call.plan present g.joined) { f.scenes i with counts := f.store }
    (some outcome, { f with scenes := Function.update f.scenes i x, store := x.counts })
  | .toStore cmd => (none, { f with store := (f.store.run cmd).2 })

/-- The fleet after requests. -/
def after (f : Fleet C S size) (run : List (Request size)) : Fleet C S size :=
  run.foldl (fun f r => (f.serve r).2) f

/-- The requests with their outcomes. -/
def log (f : Fleet C S size) : List (Request size) → List (Request size × Option (Outcome Reply))
  | [] => []
  | r :: run => (r, (f.serve r).1) :: (f.serve r).2.log run

/-- The limits that are checked for a service on a day, in order. -/
def limits (today : Date) (s : ServiceId) (run : List (Request size)) : List Int :=
  run.filterMap (Request.limit? today s)

/-- The outcomes of these checks, in order. -/
def verdicts (f : Fleet C S size) (today : Date) (s : ServiceId) (run : List (Request size)) :
    List (Outcome Reply) :=
  (f.log run).filterMap fun (r, outcome) => (r.limit? today s).bind fun _ => outcome

/-- The guards of the fleet reach the store, which is available. -/
structure Connected (f : Fleet C S size) : Prop where
  lines : ∀ i, ∃ line : Line, line.delivers ∧ (f.guards i).counters = line.client
  available : f.store.available

namespace Connected

variable {f : Fleet C S size} {today : Date} {s : ServiceId} {c : Int}

/-- A command that is given to the store is run there, by whatever line it comes. -/
theorem store_serve (h : f.Connected) (r : Request size) :
    (f.serve r).2.store = r.command?.elim f.store fun cmd => (f.store.run cmd).2 := by
  cases r with
  | toStore cmd => rfl
  | toGuard i present call =>
      obtain ⟨line, hDelivers, hLine⟩ := h.lines i
      refine (counts_alone_call (f.guards i) present call _).trans ?_
      cases hCommand : call.command? present.today with
      | none => simp only [Request.command?, hCommand, Option.elim_none]
      | some cmd =>
          simp only [Request.command?, hCommand, Option.elim_some, hLine, Counter.Client.run,
            Line.runUnder_of_delivers hDelivers]

theorem serve (h : f.Connected) (r : Request size) : (f.serve r).2.Connected where
  lines := by
    cases r with
    | toStore cmd => exact h.lines
    | toGuard i present call => exact h.lines
  available := by
    rw [h.store_serve]
    cases r.command? with
    | none => exact h.available
    | some cmd => exact (Ledger.available_run f.store cmd).trans h.available

/-- A check below the largest count goes by the next count, which it stores. -/
theorem serve_check (h : f.Connected) (hStored : f.store.stored? (dailyKey today s) = some c)
    (hRoom : c < Decimal.int64Max) {r : Request size} {limit : Int}
    (hCheck : r.limit? today s = some limit) :
    (f.serve r).1 = some (verdict s limit (c + 1)) ∧
      (f.serve r).2.store.stored? (dailyKey today s) = some (c + 1) := by
  match r with
  | .toGuard i present (.checkLimit r' limit') =>
      simp only [Request.limit?] at hCheck
      split_ifs at hCheck with hSame
      obtain ⟨rfl, rfl⟩ := hSame
      obtain rfl := Option.some.inj hCheck
      obtain ⟨line, hDelivers, hLine⟩ := h.lines i
      obtain ⟨hRun, hNext⟩ := Ledger.run_incr_of_stored? h.available hStored hRoom
      refine ⟨congrArg some (alone_checkLimit ?_ limit'), ?_⟩
      · rw [hLine, Counter.Client.run, Line.runUnder_of_delivers hDelivers, hRun]
        rfl
      · rw [h.store_serve]
        exact hNext

/-- Nothing else moves the count, whatever other services and days it is about. -/
theorem stored?_serve (h : f.Connected) {r : Request size} (hCheck : r.limit? today s = none)
    (hMeddles : ¬r.Meddles today s) :
    (f.serve r).2.store.stored? (dailyKey today s) = f.store.stored? (dailyKey today s) := by
  rw [h.store_serve]
  cases hCommand : r.command? with
  | none => rfl
  | some cmd =>
      have hSpared := r.spares hCheck hMeddles hCommand
      exact congrArg (fun value : Option Bytes => value.elim (some 0) Ledger.count?)
        (Ledger.get?_run hSpared.1 hSpared.2)

end Connected

/-- What the checks for a service on a day come to in a run that starts at a count. The `i`-th of
them sees the `i`-th count after it and goes by that, so that a check that is refused counts as
well; and under one limit as many are admitted as it has room for. Serving them one after another
leaves nothing out: a check never waits, so none overlaps with another call. -/
structure AdmitsExactly (f : Fleet C S size) (today : Date) (s : ServiceId)
    (run : List (Request size)) (c : Int) : Prop where
  verdicts : f.verdicts today s run =
    (limits today s run).mapIdx fun i limit => verdict s limit (c + (i + 1 : Nat))
  stored : (f.after run).store.stored? (dailyKey today s) =
    some (c + (limits today s run).length)
  admitted : ∀ limit, (∀ l ∈ limits today s run, l = limit) →
    ((f.verdicts today s run).countP (·.isOk) : Int) =
      min ((limits today s run).length : Int) (max 0 (limit - c))
  atOnce : ∀ (member : Fin size) (present : Present) (limit : Int) (id : TaskId)
    (floor : Floor C S Ledger),
    let g := f.guards member
    let plan := (Call.checkLimit s limit).plan present g.joined
    g.turn id { phase := .ready plan } floor =
      ({ phase := .finished (g.alone plan floor.scene).1 },
        { floor with scene := (g.alone plan floor.scene).2 })

/-- Verdicts on consecutive counts under one limit are grants up to that limit. -/
theorem countP_verdict (s : ServiceId) (limit c : Int) (limits : List Int)
    (h : ∀ l ∈ limits, l = limit) :
    (((limits.mapIdx fun i l => verdict s l (c + (i + 1 : Nat))).countP (·.isOk) : Nat) : Int) =
      min (limits.length : Int) (max 0 (limit - c)) := by
  induction limits generalizing c with
  | nil =>
      simp only [List.mapIdx_nil, List.countP_nil, List.length_nil]
      omega
  | cons l limits ih =>
      obtain rfl := h l List.mem_cons_self
      have hRest := ih (c + 1) fun l' hl => h l' (List.mem_cons_of_mem _ hl)
      have hShift : (fun i l' => verdict s l' (c + ((i + 1 : Nat) + 1 : Nat))) =
          fun i l' => verdict s l' (c + 1 + (i + 1 : Nat)) := by
        funext i l'
        exact congrArg (verdict s l') (by omega)
      rw [List.mapIdx_cons, hShift, List.countP_cons, List.length_cons, Int.natCast_add, hRest]
      by_cases hFirst : c + (0 + 1 : Nat) ≤ l
      · rw [verdict, if_pos hFirst]
        simp only [Except.isOk, Except.toBool, if_true]
        omega
      · rw [verdict, if_neg hFirst]
        simp only [Except.isOk, Except.toBool, Bool.false_eq_true, if_false]
        omega

/-- The checks of a run see consecutive counts. -/
theorem admits_run {f : Fleet C S size} (h : f.Connected) {today : Date} {s : ServiceId} {c : Int}
    (hStored : f.store.stored? (dailyKey today s) = some c) (run : List (Request size))
    (hRoom : c + (limits today s run).length ≤ Decimal.int64Max)
    (hAlone : ∀ r ∈ run, ¬r.Meddles today s) :
    f.verdicts today s run =
        (limits today s run).mapIdx (fun i limit => verdict s limit (c + (i + 1 : Nat))) ∧
      (f.after run).store.stored? (dailyKey today s) =
        some (c + (limits today s run).length) := by
  induction run generalizing f c with
  | nil => exact ⟨rfl, hStored.trans (congrArg some (by simp [limits]))⟩
  | cons r run ih =>
      have hRest : ∀ r' ∈ run, ¬r'.Meddles today s :=
        fun r' hr => hAlone r' (List.mem_cons_of_mem _ hr)
      cases hCheck : r.limit? today s with
      | none =>
          have hSame := (h.stored?_serve hCheck (hAlone r List.mem_cons_self)).trans hStored
          have hLimits : limits today s (r :: run) = limits today s run :=
            List.filterMap_cons_none hCheck
          rw [hLimits] at hRoom ⊢
          refine (ih (h.serve r) hSame hRoom hRest).imp_left fun hVerdicts => ?_
          rw [← hVerdicts]
          exact List.filterMap_cons_none (congrArg (Option.bind · fun _ => (f.serve r).1) hCheck)
      | some limit =>
          have hLimits : limits today s (r :: run) = limit :: limits today s run :=
            List.filterMap_cons_some hCheck
          rw [hLimits, List.length_cons] at hRoom
          obtain ⟨hOutcome, hNext⟩ := h.serve_check hStored (by omega) hCheck
          obtain ⟨hVerdicts, hEnd⟩ := ih (h.serve r) hNext (by omega) hRest
          rw [hLimits]
          refine ⟨?_, hEnd.trans (congrArg some (by rw [List.length_cons]; omega))⟩
          have hHead : f.verdicts today s (r :: run) =
              verdict s limit (c + 1) :: (f.serve r).2.verdicts today s run :=
            List.filterMap_cons_some
              ((congrArg (Option.bind · fun _ => (f.serve r).1) hCheck).trans hOutcome)
          rw [hHead, hVerdicts, List.mapIdx_cons]
          refine congrArg₂ List.cons rfl (congrArg (fun g => List.mapIdx g _) ?_)
          funext i l
          exact congrArg (verdict s l) (by omega)

/-- Where guards share a store that they reach, the limit of a service admits as many as it says,
whatever else the guards are asked and whoever else uses the store. -/
theorem limits_admit_exactly {f : Fleet C S size} (h : f.Connected) {today : Date} {s : ServiceId}
    {c : Int} (hStored : f.store.stored? (dailyKey today s) = some c) {run : List (Request size)}
    (hRoom : c + (limits today s run).length ≤ Decimal.int64Max)
    (hAlone : ∀ r ∈ run, ¬r.Meddles today s) : f.AdmitsExactly today s run c := by
  obtain ⟨hVerdicts, hEnd⟩ := admits_run h hStored run hRoom hAlone
  constructor
  case verdicts => exact hVerdicts
  case stored => exact hEnd
  case admitted =>
    intro limit hCommon
    rw [hVerdicts]
    exact countP_verdict s limit c _ hCommon
  case atOnce =>
    intro member present limit id floor
    exact turn_checkLimit (f.guards member) id present s limit floor

/-- Two guards admit two sends between them and refuse the third, which counts as well, whatever
another service sends meanwhile. -/
theorem limits_admit_exactly_two :
    let line : Line := { policy := .failOpen, timeoutMs := 5 }
    let g : Guard Unit MemoryStore Ledger := { ofMemory with counters := line.client }
    let f : Fleet Unit MemoryStore 2 := {
      guards := fun _ => g
      scenes := fun _ => opening {} {} { label := "replica" } {}
      store := {} }
    let s : ServiceId := default
    let check (member : Fin 2) (r : ServiceId) (limit : Int) : Request 2 :=
      .toGuard member { now := .midnight .epoch } (.checkLimit r limit)
    let run := [check 0 s 2, check 1 (.ofNat 1) 0, check 1 s 2, check 0 s 2]
    f.verdicts .epoch s run =
        [.ok (.admitted 1), .ok (.admitted 2), .error (.limitExceeded s 2)] ∧
      (f.after run).store.stored? (dailyKey .epoch s) = some 3 := by
  intro line g f s check run
  have hConnected : f.Connected := ⟨fun _ => ⟨line, rfl, rfl⟩, rfl⟩
  have hLimits : limits .epoch s run = [2, 2, 2] := by decide +kernel
  have hAlone : ∀ r ∈ run, ¬r.Meddles .epoch s := by
    simp [run, check, Request.Meddles]
  have hExact : f.AdmitsExactly .epoch s run 0 :=
    limits_admit_exactly hConnected rfl (by rw [hLimits]; decide) hAlone
  rw [hExact.verdicts, hExact.stored, hLimits]
  exact ⟨rfl, rfl⟩

end Fleet

end Guard

end Tollgate
