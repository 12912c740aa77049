import Tollgate.Proofs.Counter.Counts

/-!
The failure policy changes only what is told. Two systems that differ in nothing but their policies
keep the same store at every step of the same run, and an open one differs in its replies only where
a closed one tells a failure that may pass.
-/

namespace Tollgate.Counter

variable {S : Type}

/-- The client under another policy. -/
def Client.under (c : Client S) (policy : FailurePolicy) : Client S where
  backend := c.backend
  policy := policy
  timeoutMs := c.timeoutMs

/-- The system with all its clients under one policy. -/
def System.under (s : System S) (policy : FailurePolicy) : System S where
  clients := s.clients.map fun c => c.under policy
  store := s.store
  today := s.today

/-- The operation with the policy that it asks for, if it asks for one, replaced. -/
def Op.under (policy : FailurePolicy) : Op → Op
  | .run client asked cmd => .run client (asked.map fun _ => policy) cmd
  | .incrementDaily client service => .incrementDaily client service
  | .dailyCount client service => .dailyCount client service

/-- The event with the policy that it asks for, if it asks for one, replaced. -/
def Event.under (policy : FailurePolicy) : Event → Event
  | .op asked => .op (asked.under policy)
  | .setAvailable available => .setAvailable available
  | .direct cmd => .direct cmd

/-- What an open policy tells where a closed one tells this: a failure of a store that is
unreachable, late or could not answer a load becomes a success with nothing to tell. -/
def opened {α : Type} (nothing : α) : Outcome α → Outcome α
  | .error (.storeUnavailable _) | .error (.storeTimeout _) | .error (.loadFailed _) => .ok nothing
  | outcome => outcome

/-- The reply of an open system where a closed one gives this. What the store itself answers to a
command is no matter of a policy. -/
def Reply.opened : Reply → Reply
  | .told cmd outcome => .told cmd (Counter.opened (cmd.told none) outcome)
  | .count outcome => .count (Counter.opened none outcome)
  | .answered cmd outcome => .answered cmd outcome
  | .done => .done

/-- The reply of a client without a store: nothing is found, and writing does nothing. -/
def Op.unserved : Op → Reply
  | .run _ _ cmd => .told cmd (.ok (cmd.told none))
  | .incrementDaily _ _ | .dailyCount _ _ => .count (.ok none)

/-- The number of the client that an operation is asked of. -/
def Op.client : Op → Nat
  | .run client _ _ | .incrementDaily client _ | .dailyCount client _ => client

/-- The command that an operation runs on a day. -/
def Op.command (today : Date) : Op → Command
  | .run _ _ cmd => cmd
  | .incrementDaily _ service => .incr (dailyKey today service)
  | .dailyCount _ service => .get (dailyKey today service)

/-- The reply to an operation of whose command this is told. -/
def Op.reply (today : Date) : (o : Op) → Outcome (o.command today).Told → Reply
  | .run _ _ cmd, outcome => .told cmd outcome
  | .incrementDaily _ _, outcome => .count outcome
  | .dailyCount _ service, found => .count (found >>= readCount (dailyKey today service))

/-- The failures that an open policy swallows are those that may pass. -/
theorem opened_error {α : Type} (nothing : α) (f : Failure) :
    opened nothing (.error f) = if f.isRecoverable then .ok nothing else .error f := by
  cases f <;> rfl

/-- The two policies judge every outcome alike, but for the failures that an open one swallows. -/
theorem judge_failOpen (cmd : Command) (outcome : Outcome cmd.Answer) :
    (FailurePolicy.failOpen.judge outcome).map cmd.told =
      opened (cmd.told none) ((FailurePolicy.failClosed.judge outcome).map cmd.told) := by
  cases outcome with
  | ok answer => rfl
  | error f =>
      have hClosed : (FailurePolicy.failClosed.judge (.error f)).map cmd.told = .error f := by
        cases f <;> rfl
      rw [hClosed, opened_error]
      cases f <;> rfl

/-- What is read from stored bytes is judged after the policy, and no policy swallows it. -/
theorem opened_readCount (key : String) (found : Outcome (Option Bytes)) :
    opened none found >>= readCount key = opened none (found >>= readCount key) := by
  cases found with
  | error f => cases f <;> rfl
  | ok value =>
      show readCount key value = opened none (readCount key value)
      cases value with
      | none => rfl
      | some bytes =>
          simp only [readCount]
          split <;> rfl

/-- To swallow what is told of the command is to swallow it in the reply. -/
theorem Op.reply_opened (today : Date) (o : Op) (outcome : Outcome (o.command today).Told) :
    o.reply today (opened ((o.command today).told none) outcome) =
      (o.reply today outcome).opened := by
  cases o with
  | run i asked cmd => rfl
  | incrementDaily i service => rfl
  | dailyCount i service => exact congrArg Reply.count (opened_readCount _ _)

namespace Client

/-- A client under an open policy leaves the store as one under a closed policy does, and tells the
same but for what it swallows. -/
theorem runUnder_failOpen (c : Client S) (cmd : Command) (s : S) :
    c.runUnder .failOpen cmd s =
      (c.runUnder .failClosed cmd s).map (opened (cmd.told none)) id := by
  unfold runUnder
  cases c.backend with
  | none => rfl
  | some backend => exact Prod.ext (judge_failOpen cmd _) rfl

/-- A client without a store touches none, and has nothing to tell. -/
theorem runUnder_of_not_enabled {c : Client S} (h : c.isEnabled = false) (policy : FailurePolicy)
    (cmd : Command) (s : S) : c.runUnder policy cmd s = (.ok (cmd.told none), s) := by
  have hNone : c.backend = none := Option.isSome_eq_false_iff.1 h |> Option.isNone_iff_eq_none.1
  simp only [runUnder, hNone]

end Client

namespace System

@[simp]
theorem under_under (s : System S) (p q : FailurePolicy) : (s.under p).under q = s.under q := by
  simp only [under, List.map_map]
  rfl

@[simp]
theorem store_under (s : System S) (policy : FailurePolicy) : (s.under policy).store = s.store := rfl

@[simp]
theorem today_under (s : System S) (policy : FailurePolicy) : (s.under policy).today = s.today := rfl

/-- A client of a system under one policy runs every command under it, asked for or not. -/
theorem runUnder_client (s : System S) (policy : FailurePolicy) (i : Nat)
    (asked : Option FailurePolicy) (cmd : Command) (store : S) :
    ((s.under policy).client i).runUnder
        ((asked.map fun _ => policy).getD ((s.under policy).client i).policy) cmd store =
      (s.client i).runUnder policy cmd store := by
  simp only [client, under, List.getD_eq_getElem?_getD, List.getElem?_map]
  cases s.clients[i]? with
  | none => rfl
  | some c => cases asked <;> rfl

/-- An operation under one policy runs its command under that policy. -/
theorem step_under (s : System S) (policy : FailurePolicy) (o : Op) :
    let ran := (s.client o.client).runUnder policy (o.command s.today) s.store
    (s.under policy).step (o.under policy) =
      (o.reply s.today ran.1, System.under { s with store := ran.2 } policy) := by
  cases o with
  | run i asked cmd =>
      have hRun := s.runUnder_client policy i asked cmd s.store
      simp only [step, Op.under, store_under, hRun]
      rfl
  | incrementDaily i service =>
      have hRun := s.runUnder_client policy i none (.incr (dailyKey s.today service)) s.store
      simp only [Option.map_none, Option.getD_none] at hRun
      simp only [step, Op.under, Client.incrementDaily, Client.run, store_under, today_under, hRun]
      rfl
  | dailyCount i service =>
      have hRun := s.runUnder_client policy i none (.get (dailyKey s.today service)) s.store
      simp only [Option.map_none, Option.getD_none] at hRun
      simp only [step, Op.under, Client.dailyCount, Client.run, store_under, today_under, hRun]
      rfl

/-- An operation of a client without a store changes nothing, and has nothing to tell. -/
theorem step_of_not_enabled {s : System S} {o : Op} (h : (s.client o.client).isEnabled = false) :
    s.step o = (o.unserved, s) := by
  have hRun (policy : FailurePolicy) (cmd : Command) :
      (s.client o.client).runUnder policy cmd s.store = (.ok (cmd.told none), s.store) :=
    Client.runUnder_of_not_enabled h policy cmd s.store
  cases o with
  | run i asked cmd =>
      simp only [Op.client] at hRun
      simp only [step, hRun, Op.unserved]
  | incrementDaily i service =>
      simp only [Op.client] at hRun
      simp only [step, Client.incrementDaily, Client.run, hRun]
      rfl
  | dailyCount i service =>
      simp only [Op.client] at hRun
      simp only [step, Client.dailyCount, Client.run, hRun]
      rfl

/-- Whatever happens, an open system goes on like a closed one and replies the same but for what it
swallows. -/
theorem happen_failOpen (s : System Ledger) (e : Event) :
    (s.under .failOpen).happen (e.under .failOpen) =
      ((s.under .failClosed).happen (e.under .failClosed)).map Reply.opened
        fun t => t.under .failOpen := by
  cases e with
  | op o =>
      show (s.under .failOpen).step (o.under .failOpen) =
        ((s.under .failClosed).step (o.under .failClosed)).map _ _
      rw [step_under, step_under, Client.runUnder_failOpen]
      simp only [Prod.map, under_under, o.reply_opened, id]
  | setAvailable available =>
      exact Prod.ext rfl (under_under { s with store := { s.store with available } } _ _).symm
  | direct cmd =>
      exact Prod.ext rfl (under_under { s with store := (s.store.run cmd).2 } _ _).symm

/-- The replies of a run with every policy replaced, each with the store that is left. -/
def log (s : System Ledger) (policy : FailurePolicy) (run : List (Date × Event)) :
    List (Reply × Ledger) :=
  ((s.under policy).moments (run.map (Prod.map id (Event.under policy)))).map fun m =>
    (m.1.happen m.2).map id System.store

/-- Once all clients are under a policy they stay so. -/
theorem happen_under (s : System Ledger) (policy : FailurePolicy) (e : Event) :
    ((s.under policy).happen e).2.under policy = ((s.under policy).happen e).2 := by
  have hClients : (((s.under policy).happen e).2.under policy).clients =
      ((s.under policy).happen e).2.clients := by
    show List.map _ ((s.under policy).happen e).2.clients = _
    rw [clients_happen]
    exact congrArg clients (s.under_under policy policy)
  exact congrArg (fun clients => { ((s.under policy).happen e).2 with clients }) hClients

theorem log_cons (s : System Ledger) (policy : FailurePolicy) (day : Date) (e : Event)
    (run : List (Date × Event)) :
    let next := (System.under { s with today := day } policy).happen (e.under policy)
    s.log policy ((day, e) :: run) = next.map id System.store :: next.2.log policy run := by
  intro next
  have hNext : next.2.under policy = next.2 := happen_under _ _ _
  unfold log
  rw [hNext]
  rfl

/-- An open system keeps the same store through a run as a closed one, and gives the same replies
but for what it swallows. -/
theorem log_failOpen (s : System Ledger) (run : List (Date × Event)) :
    s.log .failOpen run = (s.log .failClosed run).map (Prod.map Reply.opened id) := by
  induction run generalizing s with
  | nil => rfl
  | cons next run ih =>
      obtain ⟨day, e⟩ := next
      have hLog (t : System Ledger) : (t.under .failOpen).log .failOpen run =
          t.log .failOpen run := by
        unfold log
        rw [under_under]
      rw [log_cons, log_cons, happen_failOpen, List.map_cons, ← ih]
      exact List.cons_eq_cons.2 ⟨rfl, hLog _⟩

end System

/-- The policies of clients, whatever stores they have, decide nothing but what is told. Through
every run of operations and switches, one system with every policy closed and one with every policy
open keep the same store, and the open one tells what the closed one tells, except that a failure
that may pass is told as a success with nothing in it. Under any policies, a client without a store
leaves everything as it is and has nothing to tell. -/
theorem policies_only_tell (clients : List (Client Ledger)) (store : Ledger) (today : Date)
    (run : List (Date × Event)) :
    let s : System Ledger := { clients, store, today }
    s.log .failOpen run = (s.log .failClosed run).map (Prod.map Reply.opened id) ∧
      ∀ m ∈ s.moments run, ∀ o, m.2 = .op o → (m.1.client o.client).isEnabled = false →
        m.1.happen m.2 = (o.unserved, m.1) := by
  intro s
  refine ⟨s.log_failOpen run, fun m _ o hOp hDisabled => ?_⟩
  rw [hOp]
  exact System.step_of_not_enabled hDisabled

/-- A client without a store, an outage, a late client and a refusing store. An open system tells the
count that was lost and the late one as missing, and the refusal and the text that is no count as a
closed one does. -/
theorem policies_only_tell_outage :
    let lines : List Line := [{ policy := .failOpen, timeoutMs := 5 },
      { policy := .failClosed, timeoutMs := 5, delayMs := 6 },
      { policy := .failOpen, timeoutMs := 5, fault := some (.storeRejected "wrong type") }, .cut]
    let s : System Ledger := { clients := lines.map Line.client, store := {}, today := .epoch }
    let run := [.op (.run 3 none (.incr "k")), .op (.run 0 none (.set "k" [120])),
      .op (.run 0 none (.incr "k")), .op (.run 1 none (.incr "k")), .op (.run 2 none (.get "k")),
      .setAvailable false, .op (.run 0 (some .failClosed) (.incr "k"))].map fun e => (.epoch, e)
    s.happen (.op (.run 3 none (.incr "k"))) = (.told (.incr "k") (.ok none), s) ∧
      (s.log .failClosed run).map (fun told => told.1.failed) =
        [false, false, true, true, true, false, true] ∧
      (s.log .failOpen run).map (fun told => told.1.failed) =
        [false, false, true, false, true, false, false] := by
  intro lines s run
  obtain ⟨hLog, hDisabled⟩ := policies_only_tell s.clients s.store s.today run
  refine ⟨hDisabled (s, _) List.mem_cons_self _ rfl rfl, by decide +kernel, ?_⟩
  rw [hLog, List.map_map]
  decide +kernel

end Tollgate.Counter
