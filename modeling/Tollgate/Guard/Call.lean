import Tollgate.Guard.Plan

/-!
The calls that can be made to a guard, as data.
-/

namespace Tollgate.Guard

/-- A call. -/
inductive Call
  | apiKeys (s : ServiceId)
  | permissions (s : ServiceId)
  | isActive (s : ServiceId)
  | prime (s : ServiceId)
  | authorize (s : ServiceId) (permission : String)
  | incrementDaily (s : ServiceId)
  | dailyCount (s : ServiceId)
  | setDaily (s : ServiceId) (value : Bytes)
  | checkLimit (s : ServiceId) (limit : Int)
  | readReplica (s : ServiceId)

/-- What a call yields. -/
inductive Reply
  | apiKeys (keys : List ApiKey)
  | permissions (permissions : List Permission)
  | active (flag : Option Bool)
  | known (flag : Bool)
  | authorized (service : Plan.Authorized)
  | tally (n : Option Int)
  | admitted (n : Int)
  | done

/-- The instant at which calls are judged. -/
structure Present where
  now : Timestamp

/-- The day on which sends are counted. -/
def Present.today (p : Present) : Date :=
  p.now.date

/-- The plan of a call. Whether the stores have a query for whole snapshots matters to one that
fetches all facts together. -/
def Call.plan (p : Present) (joined : Bool) : Call → Plan Reply
  | apiKeys s => (Plan.apiKeys s).map .apiKeys
  | permissions s => (Plan.permissions s).map .permissions
  | isActive s => (Plan.isActive s).map .active
  | prime s => (Plan.prime joined s).map .known
  | authorize s permission => (Plan.authorize p.now s permission).map .authorized
  | incrementDaily s => (Plan.incrementDaily p.today s).map .tally
  | dailyCount s => (Plan.dailyCount p.today s).map .tally
  | setDaily s value => (Plan.setDaily p.today s value).map fun _ => .done
  | checkLimit s limit => (Plan.checkLimit p.today s limit).map .admitted
  | readReplica s => (Plan.readReplica s).map .active

end Tollgate.Guard
