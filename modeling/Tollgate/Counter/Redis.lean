import Tollgate.Counter.Address
import Tollgate.Counter.Client

/-!
A counter store on a Redis server. A command goes out as words, and the reply decides the outcome:
what the server answers with is final, a lost connection may pass.
-/

namespace Tollgate.Counter

namespace Redis

/-- What a server does with a command: it replies, drops the connection or stays silent. -/
inductive Reply
  | integer (n : Int)
  | bulk (value : Bytes)
  | nil
  | status (text : String)
  | error (line : String)
  | close
  | silence

/-- The words of a command. -/
def words : Command → List Bytes
  | .get key => [bytes "GET", bytes key]
  | .set key value => [bytes "SET", bytes key, value]
  | .incr key => [bytes "INCRBY", bytes key, bytes "1"]
  | .delete key => [bytes "DEL", bytes key]
where
  /-- The bytes of a word. -/
  bytes (s : String) : Bytes := Utf8.encode s.toList

/-- The kinds of error that have a name of their own, by the code at the start of the line. -/
def kindName? : String → Option String
  | "ERR" => some "ResponseError"
  | "EXECABORT" => some "ExecAbortError"
  | "LOADING" => some "BusyLoadingError"
  | "NOSCRIPT" => some "NoScriptError"
  | "MOVED" => some "Moved"
  | "ASK" => some "Ask"
  | "TRYAGAIN" => some "TryAgain"
  | "CLUSTERDOWN" => some "ClusterDown"
  | "CROSSSLOT" => some "CrossSlot"
  | "MASTERDOWN" => some "MasterDown"
  | "READONLY" => some "ReadOnly"
  | "NOTBUSY" => some "NotBusy"
  | _ => none

/-- The wording of an error line: its code up to the first space, and the detail behind it. -/
def errorText (line : String) : String :=
  let code := String.ofList (line.toList.takeWhile (· ≠ ' '))
  let detail := String.ofList ((line.toList.dropWhile (· ≠ ' ')).drop 1)
  match kindName? code with
  | some name =>
    if detail.isEmpty then s!"An error was signalled by the server- {name}"
    else s!"An error was signalled by the server - {name}: {detail}"
  | none =>
    if detail.isEmpty then s!"{code}: Unknown extension error encountered"
    else s!"{code}: {detail}"

/-- The failure of a reply that is not of the kind a command asks for. -/
def wrongKind : Failure :=
  .storeRejected "the reply is of the wrong kind"

/-- The failure of a dropped connection. -/
def dropped : Failure :=
  .storeUnavailable "the server closed the connection"

/-- What a reply means to a command; silence means nothing. -/
def Reply.answer? (r : Reply) : (c : Command) → Option (Outcome c.Answer)
  | .get _ =>
    match r with
    | bulk value => some (.ok (some value))
    | nil => some (.ok none)
    | error line => some (.error (.storeRejected (errorText line)))
    | close => some (.error dropped)
    | silence => none
    | integer _ | status _ => some (.error wrongKind)
  | .incr _ =>
    match r with
    | integer n => some (.ok n)
    | bulk value =>
      match Ledger.count? value with
      | some n => some (.ok n)
      | none => some (.error wrongKind)
    | error line => some (.error (.storeRejected (errorText line)))
    | close => some (.error dropped)
    | silence => none
    | nil | status _ => some (.error wrongKind)
  | .set _ _ | .delete _ =>
    match r with
    | error line => some (.error (.storeRejected (errorText line)))
    | close => some (.error dropped)
    | silence => none
    | integer _ | bulk _ | nil | status _ => some (.ok ())

/-- A server as a client sees it: whether it can be reached, the replies it will give, the commands
it received and whether it was ever connected to. -/
structure Server where
  reachable : Bool := true
  script : List Reply := []
  received : List (List Bytes) := []
  connected : Bool := false

/-- The store on a server. A server that cannot be reached is tried until the time is up, and a
server at the end of its script stays silent. -/
def backend : Backend Server where
  name := "redis"
  call _ c s :=
    if s.reachable then
      ((s.script.headD .silence).answer? c, { s with
        script := s.script.tail
        received := s.received ++ [words c]
        connected := true })
    else (none, s)

end Redis

/-- The client that settings ask for. A store is connected to when it is first used. -/
def Client.ofSettings (s : CounterSettings) : Outcome (Client Redis.Server) := do
  if s.enabled then
    checkAddress s
    return {
      backend := some Redis.backend
      policy := s.policy
      timeoutMs := s.timeoutMs.toNat }
  else return .disabled

end Tollgate.Counter
