import Tollgate.Counter.Client
import Tollgate.Routing.Binds
import Tollgate.Store.Basic

/-!
The calls of a guard as plans: what a call does, step by step, with everything it may be told left
open. A plan can run alone, or take turns with others at the two steps at which a call waits: before
the gate of a load, and for the answer of a store.

A look-up goes to its cache first. A miss takes the gate of that concern and service, looks again,
asks the replica, and remembers the fact before it lets go of the gate.
-/

namespace Tollgate.Guard

/-- What a guard reports of its work. -/
inductive Note
  | hit (c : Concern)
  | miss (c : Concern)
  | load (c : Concern)
  | loadFailure
  | limitExceeded
  | size (c : Concern) (n : Nat)
deriving DecidableEq, Repr

/-- A call, step by step. -/
inductive Plan (A : Type)
  | done (outcome : Outcome A)
  | note (n : Note) (rest : Plan A)
  | look (c : Concern) (s : ServiceId) (next : Option c.Fact → Plan A)
  | enter (c : Concern) (s : ServiceId) (rest : Plan A)
  | leave (c : Concern) (s : ServiceId) (rest : Plan A)
  | ask (bind : String) (q : Question) (s : ServiceId) (next : Outcome q.Answer → Plan A)
  | learn (c : Concern) (s : ServiceId) (fact : c.Fact) (rest : Plan A)
  | count (cmd : Counter.Command) (next : Outcome cmd.Told → Plan A)

namespace Plan

variable {A B : Type}

/-- One plan after another, which may depend on the outcome. -/
def followedBy : Plan A → (Outcome A → Plan B) → Plan B
  | done outcome, f => f outcome
  | note n rest, f => note n (rest.followedBy f)
  | look c s next, f => look c s fun fact => (next fact).followedBy f
  | enter c s rest, f => enter c s (rest.followedBy f)
  | leave c s rest, f => leave c s (rest.followedBy f)
  | ask bind q s next, f => ask bind q s fun outcome => (next outcome).followedBy f
  | learn c s fact rest, f => learn c s fact (rest.followedBy f)
  | count cmd next, f => count cmd fun outcome => (next outcome).followedBy f

/-- One plan after another that succeeds. -/
def andThen (p : Plan A) (f : A → Plan B) : Plan B :=
  p.followedBy fun
    | .ok a => f a
    | .error e => done (.error e)

/-- A plan with its result changed. -/
def map (f : A → B) (p : Plan A) : Plan B :=
  p.followedBy fun outcome => done (outcome.map f)

/-- A plan that fails. -/
def fail (e : Failure) : Plan A :=
  done (.error e)

/-- Asks the replica for what is to be fetched. -/
def fetch (s : ServiceId) : Fetch A → Plan A
  | .done outcome => done outcome
  | .ask q next => ask replicaBind q s fun outcome => fetch s (next outcome)

/-- Goes on with the outcome of a load: remembers the fact, if there is one, and then lets go of
the gate. -/
def settle (c : Concern) (s : ServiceId) : Outcome c.Answer → Plan (Option c.Fact)
  | .error e => leave c s (fail e)
  | .ok answer =>
    note (.load c) <|
      match c.fact? answer with
      | none => leave c s (done (.ok none))
      | some fact => learn c s fact (leave c s (done (.ok (some fact))))

/-- Looks a fact up again behind the gate, and loads it if it is still not remembered. -/
def behindGate (c : Concern) (s : ServiceId) : Plan (Option c.Fact) :=
  look c s fun
    | some fact => leave c s (done (.ok (some fact)))
    | none => ask replicaBind (.fact c) s (settle c s)

/-- Looks a fact up, and loads it if it is not remembered. -/
def lookup (c : Concern) (s : ServiceId) : Plan (Option c.Fact) :=
  look c s fun
    | some fact => note (.hit c) (done (.ok (some fact)))
    | none => note (.miss c) (enter c s (behindGate c s))

/-- The API keys of a service, expired ones included. -/
def apiKeys (s : ServiceId) : Plan (List ApiKey) :=
  (lookup .apiKeys s).map fun ks : Option (List ApiKey) => ks.getD []

/-- The permissions of a service. -/
def permissions (s : ServiceId) : Plan (List Permission) :=
  (lookup .permissions s).map fun ps : Option (List Permission) => ps.getD []

/-- Whether a service is active, if it exists. -/
def isActive (s : ServiceId) : Plan (Option Bool) :=
  lookup .serviceActive s

/-- Loads all facts about a service together and remembers them, past the gates. Tells whether the
service exists. -/
def prime (joined : Bool) (s : ServiceId) : Plan Bool :=
  (fetch s (Fetch.snapshot joined)).andThen fun
    | none => done (.ok false)
    | some snapshot =>
      Concern.all.foldr (fun c rest => learn c s (c.factOf snapshot) rest) (done (.ok true))

/-- A service that may do what it asked for, with the keys that live and all its permissions. -/
structure Authorized where
  service : ServiceId
  apiKeys : List ApiKey
  permissions : List Permission
deriving DecidableEq

/-- The refusals of an authorization. -/
inductive Denial
  | unknown
  | inactive
  | noLiveKeys
  | lacks (permission : String)
  | unverified
deriving DecidableEq, Repr

/-- A refusal as a failure. -/
def Denial.failure (d : Denial) (s : ServiceId) : Failure :=
  .unauthorized <|
    match d with
    | unknown => s!"unknown service {s.text}"
    | inactive => s!"service {s.text} is inactive"
    | noLiveKeys => s!"service {s.text} has no live API keys"
    | lacks permission => s!"service {s.text} lacks permission '{permission}'"
    | unverified => s!"could not verify service {s.text}"

/-- Checks a service as of an instant: that it is active, that one of its keys lives, and that it
has the permission. Any failure of a look-up ends the check. -/
def evaluate (now : Timestamp) (s : ServiceId) (permission : String) : Plan Authorized :=
  (isActive s).andThen fun
    | none => fail (Denial.unknown.failure s)
    | some false => fail (Denial.inactive.failure s)
    | some true =>
      (apiKeys s).andThen fun keys =>
        let live := keys.filter (·.isLiveAt now)
        if live.isEmpty then fail (Denial.noLiveKeys.failure s)
        else
          (permissions s).andThen fun permissions =>
            if permissions.any (·.grants permission) then
              done (.ok { service := s, apiKeys := live, permissions })
            else fail ((Denial.lacks permission).failure s)

/-- Decides whether a service may do something. What cannot be verified is refused; only failures
of the set-up and refusals are told as they are. -/
def authorize (now : Timestamp) (s : ServiceId) (permission : String) : Plan Authorized :=
  (evaluate now s permission).followedBy fun
    | .ok service => done (.ok service)
    | .error e =>
      if e.isConfiguration || e.isDenial then fail e
      else note .loadFailure (fail (Denial.unverified.failure s))

/-- Counts one more send of a service today. -/
def incrementDaily (today : Date) (s : ServiceId) : Plan (Option Int) :=
  count (.incr (Counter.dailyKey today s)) done

/-- The sends of a service counted today. -/
def dailyCount (today : Date) (s : ServiceId) : Plan (Option Int) :=
  let key := Counter.dailyKey today s
  count (.get key) fun found => done (found >>= Counter.readCount key)

/-- Sets the sends of a service counted today. -/
def setDaily (today : Date) (s : ServiceId) (value : Bytes) : Plan Unit :=
  count (.set (Counter.dailyKey today s) value) done

/-- Counts one more send of a service, and refuses it if the count has passed the limit. Where
nothing is counted, nothing is refused. -/
def checkLimit (today : Date) (s : ServiceId) (limit : Int) : Plan Int :=
  (incrementDaily today s).andThen fun
    | none => done (.ok 0)
    | some sent =>
      if limit < sent then note .limitExceeded (fail (.limitExceeded s limit))
      else done (.ok sent)

/-- Asks the replica, past the caches, whether a service is active. -/
def readReplica (s : ServiceId) : Plan (Option Bool) :=
  ask replicaBind (.fact .serviceActive) s done

end Plan

end Tollgate.Guard
