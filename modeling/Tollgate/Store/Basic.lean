import Tollgate.Failure
import Tollgate.Record

/-!
Stores of the facts about services, and how a snapshot is fetched: by one query of its own, or fact
by fact.
-/

namespace Tollgate

/-- What a store can be asked about a service. -/
inductive Question
  | fact (c : Concern)
  | snapshot
deriving DecidableEq, Repr

namespace Question

/-- What a store answers. A snapshot of an unknown service does not exist. -/
def Answer : Question → Type
  | fact c => c.Answer
  | snapshot => Option Snapshot

/-- The answer of a store that holds this snapshot of the service, or none. -/
def answerOf : (q : Question) → Option Snapshot → q.Answer
  | fact c, held => c.answerOf held
  | snapshot, held => held

end Question

/-- A way to ask a store with states `S`: every question has an outcome and may change the store. -/
abbrev Authority (S : Type) :=
  (q : Question) → ServiceId → S → Outcome q.Answer × S

/-- Something to fetch by questions about one service, each of which may depend on the outcomes
before it. -/
inductive Fetch (A : Type)
  | done (outcome : Outcome A)
  | ask (q : Question) (next : Outcome q.Answer → Fetch A)

namespace Fetch

variable {A : Type}

/-- Asks, and goes on only with an answer. -/
def answer (q : Question) (next : q.Answer → Fetch A) : Fetch A :=
  .ask q fun
    | .ok a => next a
    | .error f => .done (.error f)

/-- Fetches by one question. -/
def single (q : Question) : Fetch q.Answer :=
  .ask q .done

/-- Fetches a snapshot fact by fact. The active flag comes first and tells whether there is such a
service. -/
def factByFact : Fetch (Option Snapshot) :=
  answer (.fact .serviceActive) fun active : Option Bool =>
    match active with
    | none => .done (.ok none)
    | some active =>
      answer (.fact .apiKeys) fun apiKeys : List ApiKey =>
        answer (.fact .permissions) fun permissions : List Permission =>
          .done (.ok (some { apiKeys, permissions, active }))

/-- Fetches a snapshot, by its own query if it is `joined`. -/
def snapshot (joined : Bool) : Fetch (Option Snapshot) :=
  if joined then single .snapshot else factByFact

/-- Fetches from a store. -/
def run {S : Type} (authority : Authority S) (service : ServiceId) : Fetch A → S → Outcome A × S
  | .done outcome, s => (outcome, s)
  | .ask q next, s =>
    let (outcome, s) := authority q service s
    (next outcome).run authority service s

end Fetch

end Tollgate
