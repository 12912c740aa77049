import Tollgate.Counter.Redis
import Tollgate.Proofs.Counter.Policies

/-!
A store in memory and a store on a server are interchangeable as long as neither fails. A client
over a server that replies with what the store in memory would answer tells the same at every step,
and the server gets one command for each operation, with the key and the value as they are.
-/

namespace Tollgate

/-- A text is encoded in the bytes that it is made of. -/
theorem Utf8.encode_toList (s : String) : Utf8.encode s.toList = s.toByteArray.data.toList := by
  rw [← String.utf8Encode_toList]
  simp [Utf8.encode, List.utf8Encode]

namespace Counter

variable {S : Type}

/-- The words that a store on a server is to get for a command, in the bytes of their texts. -/
def Command.line : Command → List Bytes
  | .get key => [utf8 "GET", utf8 key]
  | .set key value => [utf8 "SET", utf8 key, value]
  | .incr key => [utf8 "INCRBY", utf8 key, utf8 "1"]
  | .delete key => [utf8 "DEL", utf8 key]
where
  /-- The bytes that a text is made of. -/
  utf8 (s : String) : Bytes := s.toByteArray.data.toList

namespace Redis

theorem words_eq_line (cmd : Command) : words cmd = cmd.line := by
  cases cmd <;> simp only [words, words.bytes, Command.line, Command.line.utf8, Utf8.encode_toList]

/-- Whether a reply acknowledges a command, whatever else it says. -/
def Reply.acknowledges : Reply → Bool
  | integer _ | bulk _ | nil | status _ => true
  | error _ | close | silence => false

/-- Whether a reply is what a server makes of the answer of a store. No reply is made of a failure. -/
def Reply.encodes : (cmd : Command) → Outcome cmd.Answer → Reply → Bool
  | .get _, .ok (some value), .bulk sent => sent == value
  | .get _, .ok none, .nil => true
  | .incr _, .ok count, .integer sent => sent == count
  | .set _ _, .ok _, r | .delete _, .ok _, r => r.acknowledges
  | _, _, _ => false

/-- A reply is read as the answer that it is made of. -/
theorem Reply.answer?_of_encodes {cmd : Command} {outcome : Outcome cmd.Answer} {r : Reply}
    (h : r.encodes cmd outcome) :
    ∃ answer, outcome = .ok answer ∧ r.answer? cmd = some (.ok answer) := by
  unfold encodes at h
  split at h
  case h_1 key value sent =>
    obtain rfl : sent = value := eq_of_beq h
    exact ⟨some sent, rfl, rfl⟩
  case h_2 key => exact ⟨none, rfl, rfl⟩
  case h_3 key count sent =>
    obtain rfl : sent = count := eq_of_beq h
    exact ⟨sent, rfl, rfl⟩
  case h_4 key value done | h_5 key done =>
    refine ⟨done, rfl, ?_⟩
    cases r with
    | integer n | bulk value | nil | status text => rfl
    | error line | close | silence => cases h
  case h_6 => cases h

/-- The server once it has replied to a command. -/
def Server.replied (s : Server) (cmd : Command) : Server where
  reachable := s.reachable
  script := s.script.tail
  received := s.received ++ [cmd.line]
  connected := true

end Redis

/-- The client of a store under a policy and a timeout. -/
def Backend.client (b : Backend S) (policy : FailurePolicy) (timeoutMs : Nat) : Client S where
  backend := some b
  policy := policy
  timeoutMs := timeoutMs

namespace Client

variable {own policy : FailurePolicy} {timeoutMs : Nat} {cmd : Command} {answer : cmd.Answer}

/-- What a store in memory answers is told, whatever the policy. -/
theorem runUnder_memory {l : Ledger} (h : (l.run cmd).1 = .ok answer) :
    (Backend.memory.client own timeoutMs).runUnder policy cmd l =
      (.ok (cmd.told (some answer)), (l.run cmd).2) := by
  simp only [Backend.client, runUnder, Backend.memory, Option.getD_some, h]
  rfl

/-- What a server replies is told, whatever the policy, and the command got there as it was. -/
theorem runUnder_redis {s : Redis.Server} (hReachable : s.reachable)
    (hReply : (s.script.headD .silence).answer? cmd = some (.ok answer)) :
    (Redis.backend.client own timeoutMs).runUnder policy cmd s =
      (.ok (cmd.told (some answer)), s.replied cmd) := by
  simp only [Backend.client, runUnder, Redis.backend, hReachable, if_true, hReply,
    Redis.words_eq_line, Redis.Server.replied]
  rfl

end Client

/-- The policy that an operation runs under. -/
def Op.policy (c : Client S) : Op → FailurePolicy
  | .run _ asked _ => asked.getD c.policy
  | .incrementDaily _ _ | .dailyCount _ _ => c.policy

namespace System

/-- An operation runs its command on the store, and its reply is made of what is told of that. -/
theorem step_eq (s : System S) (o : Op) :
    let c := s.client o.client
    let ran := c.runUnder (o.policy c) (o.command s.today) s.store
    s.step o = (o.reply s.today ran.1, { s with store := ran.2 }) := by
  cases o with
  | run i asked cmd => rfl
  | incrementDaily i service => rfl
  | dailyCount i service => rfl

/-- A client alone with its store. -/
def alone (b : Backend S) (policy : FailurePolicy) (timeoutMs : Nat) (today : Date) (store : S) :
    System S where
  clients := [b.client policy timeoutMs]
  store := store
  today := today

/-- The replies to operations, each on its day, and the state that they leave. -/
def serve (s : System S) : List (Date × Op) → List Reply × System S
  | [] => ([], s)
  | (day, o) :: run =>
    let (reply, s) := { s with today := day }.step o
    (s.serve run).map (reply :: ·) id

section Alone

variable {b : Backend S} {policy : FailurePolicy} {timeoutMs : Nat} {day : Date} {o : Op}
  {store after : S} {told : Outcome (o.command day).Told}

/-- An operation of a client alone with its store. -/
theorem step_alone (hClient : o.client = 0)
    (hRan : (b.client policy timeoutMs).runUnder (o.policy (b.client policy timeoutMs))
      (o.command day) store = (told, after)) :
    (alone b policy timeoutMs day store).step o =
      (o.reply day told, alone b policy timeoutMs day after) := by
  have hAlone : (alone b policy timeoutMs day store).client o.client = b.client policy timeoutMs := by
    rw [hClient]
    rfl
  rw [step_eq, hAlone]
  exact congrArg (fun ran => (o.reply day ran.1, alone b policy timeoutMs day ran.2)) hRan

theorem serve_alone_cons (hClient : o.client = 0)
    (hRan : (b.client policy timeoutMs).runUnder (o.policy (b.client policy timeoutMs))
      (o.command day) store = (told, after)) (today : Date) (run : List (Date × Op)) :
    (alone b policy timeoutMs today store).serve ((day, o) :: run) =
      ((alone b policy timeoutMs day after).serve run).map (o.reply day told :: ·) id := by
  have hDay : { alone b policy timeoutMs today store with today := day } =
      alone b policy timeoutMs day store := rfl
  rw [serve, hDay, step_alone hClient hRan]

end Alone

end System

/-- Whether a script of replies is what a server makes of the answers of a store in memory to a run
of operations. It is only if each of them succeeds there. -/
def echoes : Ledger → List (Date × Op) → List Redis.Reply → Bool
  | _, [], [] => true
  | l, (day, o) :: run, r :: script =>
    let (outcome, l) := l.run (o.command day)
    r.encodes (o.command day) outcome && echoes l run script
  | _, _, _ => false

/-- Through a run a server that echoes a store in memory makes a client tell what it tells over that
store, and gets one command for each operation. -/
theorem serve_redis_of_echoes {policy other : FailurePolicy} {timeoutMs otherMs : Nat}
    {today : Date} {l : Ledger} {run : List (Date × Op)} {script : List Redis.Reply}
    (hEchoes : echoes l run script) (hClient : ∀ p ∈ run, p.2.client = 0) {server : Redis.Server}
    (hReachable : server.reachable) {rest : List Redis.Reply}
    (hScript : server.script = script ++ rest) :
    ((System.alone Redis.backend policy timeoutMs today server).serve run).1 =
        ((System.alone Backend.memory other otherMs today l).serve run).1 ∧
      ((System.alone Redis.backend policy timeoutMs today server).serve run).2.store.received =
        server.received ++ run.map fun p => (p.2.command p.1).line := by
  -- The store in memory and the server move on together, each by the command of one operation.
  induction run generalizing today l script server with
  | nil => exact ⟨rfl, (List.append_nil _).symm⟩
  | cons next run ih =>
      obtain ⟨day, o⟩ := next
      cases script with
      | nil => cases hEchoes
      | cons r script =>
          obtain ⟨hReply, hRest⟩ := Bool.and_eq_true_iff.1 hEchoes
          obtain ⟨answer, hAnswer, hRead⟩ := Redis.Reply.answer?_of_encodes hReply
          have hFirst : o.client = 0 := hClient (day, o) List.mem_cons_self
          have hStill : (server.replied (o.command day)).reachable := hReachable
          have hLater : (server.replied (o.command day)).script = script ++ rest := by
            rw [Redis.Server.replied, hScript]
            rfl
          have hNext : (server.script.headD .silence).answer? (o.command day) =
              some (.ok answer) := by
            rw [hScript]
            exact hRead
          rw [System.serve_alone_cons hFirst (Client.runUnder_memory hAnswer),
            System.serve_alone_cons hFirst (Client.runUnder_redis hReachable hNext)]
          obtain ⟨hReplies, hReceived⟩ := ih hRest
            (fun p hp => hClient p (List.mem_cons_of_mem _ hp)) hStill hLater
          constructor
          · exact congrArg (o.reply day _ :: ·) hReplies
          · rw [List.map_cons, List.append_cons]
            exact hReceived

/-- A store on a server takes the place of one in memory without anyone seeing a difference. Take a
run of operations of a client, whatever the days and the values, in which a store in memory, empty
at first, answers every command, and a server that replies to each command, in time, with what that
store answers. Then a client over the server, under any policy, tells the same at every step, and
the server gets exactly one command for each operation, in order. -/
theorem backends_interchangeable (policy other : FailurePolicy) (timeoutMs otherMs : Nat)
    (today : Date) {run : List (Date × Op)} {script : List Redis.Reply}
    (hClient : ∀ p ∈ run, p.2.client = 0) (hEchoes : echoes {} run script)
    (rest : List Redis.Reply) :
    let onServer :=
      (System.alone Redis.backend policy timeoutMs today { script := script ++ rest }).serve run
    onServer.1 = ((System.alone Backend.memory other otherMs today {}).serve run).1 ∧
      onServer.2.store.received = run.map fun p => (p.2.command p.1).line :=
  serve_redis_of_echoes hEchoes hClient rfl rfl

/-- A value that is set, counted on and read back, a text that is no count, and a count of the day.
-/
theorem backends_interchangeable_daily :
    let service := Uuid.ofNat 7
    let run := [Op.run 0 none (.set "k" [43, 53]), .run 0 (some .failOpen) (.incr "k"),
      .run 0 none (.get "k"), .run 0 none (.set (dailyKey .epoch service) [120]),
      .dailyCount 0 service, .run 0 none (.delete (dailyKey .epoch service)),
      .incrementDaily 0 service].map fun o => (Date.epoch, o)
    let script := [.status "OK", .integer 6, .bulk [54], .status "OK", .bulk [120], .integer 1,
      .integer 1]
    let onServer :=
      (System.alone Redis.backend .failClosed 5 .epoch { script := script ++ [.close] }).serve run
    (∀ p ∈ run, p.2.client = 0) ∧ echoes {} run script ∧
      onServer.1 = ((System.alone Backend.memory .failOpen 5 .epoch {}).serve run).1 ∧
      onServer.1.map Reply.failed = [false, false, false, false, true, false, false] := by
  intro service run script onServer
  have hClient : ∀ p ∈ run, p.2.client = 0 := by decide
  have hEchoes : echoes {} run script := by decide +kernel
  have hSame := backends_interchangeable .failClosed .failOpen 5 5 .epoch hClient hEchoes [.close]
  exact ⟨hClient, hEchoes, hSame.1, by decide +kernel⟩

end Counter

end Tollgate
