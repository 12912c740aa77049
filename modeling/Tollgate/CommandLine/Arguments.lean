import Tollgate.Text.Decimal
import Tollgate.Uuid

/-!
The arguments of the program: a command among its flags, and behind it the flags, options and values
of the command. Arguments are judged from left to right, so a call for help is heard unless a fault
stands before it; what is missing is noticed at the end.
-/

namespace Tollgate.CommandLine

/-- How big a soak is. -/
structure SoakSize where
  services : Nat := 100
  requests : Nat := 100000
  workers : Nat := 16
deriving DecidableEq, Repr

/-- What is to be done. -/
inductive Command
  | config
  | count (s : ServiceId)
  | getCount (s : ServiceId)
  | reset (s : ServiceId)
  | soak (size : SoakSize)
deriving DecidableEq

/-- A command with the flags around it. -/
structure Invocation where
  verbose : Bool
  failClosed : Bool
  command : Command
deriving DecidableEq

/-- The kinds of commands. -/
inductive Verb
  | config
  | count
  | getCount
  | reset
  | bench
deriving DecidableEq, Repr

namespace Verb

/-- All of them, in the order in which help shows them. -/
def all : List Verb := [config, count, getCount, reset, bench]

/-- The name under which a command is called. -/
def name : Verb → String
  | config => "config"
  | count => "count"
  | getCount => "get-count"
  | reset => "reset"
  | bench => "bench"

/-- The command of a name. -/
def ofName? (s : String) : Option Verb :=
  all.find? fun v => v.name = s

/-- Whether a command is about one service. -/
def takesService : Verb → Bool
  | count | getCount | reset => true
  | config | bench => false

end Verb

/-- Why arguments are no invocation: help is asked for, on the program or on a command, or the
version, or there is a fault. -/
inductive Stop
  | help (topic : Option Verb)
  | version
  | fault
deriving DecidableEq, Repr

/-- The form of an argument: two hyphens alone; a long name, perhaps with a value behind an equals
sign; short names in a row; or a plain word. -/
inductive Argument
  | escape
  | long (name : String) (value : Option String)
  | short (letters : List Char)
  | word (s : String)
deriving DecidableEq, Repr

/-- The form of an argument by its hyphens. One hyphen alone is a word. -/
def Argument.ofText (s : String) : Argument :=
  match s.toList with
  | ['-', '-'] => escape
  | '-' :: '-' :: rest =>
    let name := String.ofList (rest.takeWhile (· ≠ '='))
    match rest.dropWhile (· ≠ '=') with
    | [] => long name none
    | _ :: value => long name (some (String.ofList value))
  | '-' :: c :: rest => short (c :: rest)
  | _ => word s

/-- The options of a soak. -/
inductive SoakOption
  | services
  | requests
  | workers
deriving DecidableEq, Repr

/-- The option of a long name. -/
def SoakOption.ofName? : String → Option SoakOption
  | "services" => some services
  | "requests" => some requests
  | "concurrency" => some workers
  | _ => none

/-- The option of a short name. -/
def SoakOption.ofLetter? : Char → Option SoakOption
  | 's' => some services
  | 'r' => some requests
  | 'c' => some workers
  | _ => none

/-- What has been read, of the program's own arguments or of a command's: each flag and value at most
once. An option may still wait for its value, and behind two hyphens everything is a word. -/
structure Reading where
  verb : Option Verb := none
  verbose : Bool := false
  failClosed : Bool := false
  service : Option ServiceId := none
  services : Option Nat := none
  requests : Option Nat := none
  workers : Option Nat := none
  waiting : Option SoakOption := none
  escaped : Bool := false

namespace Reading

/-- Sets the first flag. -/
def setVerbose (r : Reading) : Except Stop Reading :=
  if r.verbose then .error .fault else .ok { r with verbose := true }

/-- Sets the second flag. -/
def setFailClosed (r : Reading) : Except Stop Reading :=
  if r.failClosed then .error .fault else .ok { r with failClosed := true }

/-- Gives an option its value, a number of 64 bits. -/
def setOption (r : Reading) (o : SoakOption) (value : String) : Except Stop Reading :=
  match Decimal.readNat (UInt64.size - 1) value.toList with
  | .error _ => .error .fault
  | .ok n =>
    match o, r with
    | .services, { services := none, .. } => .ok { r with services := some n, waiting := none }
    | .requests, { requests := none, .. } => .ok { r with requests := some n, waiting := none }
    | .workers, { workers := none, .. } => .ok { r with workers := some n, waiting := none }
    | _, _ => .error .fault

/-- Reads short names in a row. An option takes the rest of the row as its value, without an equals
sign at its start, or waits for the next argument. -/
def short (r : Reading) : List Char → Except Stop Reading
  | [] => .ok r
  | c :: rest =>
    if c = 'v' then do short (← r.setVerbose) rest
    else if c = 'h' then .error (.help r.verb)
    else if c = 'V' && r.verb.isNone then .error .version
    else
      match SoakOption.ofLetter? c with
      | none => .error .fault
      | some o =>
        if r.verb != some .bench then .error .fault
        else
          match rest with
          | [] => .ok { r with waiting := some o }
          | '=' :: value => r.setOption o (String.ofList value)
          | value => r.setOption o (String.ofList value)

/-- Reads a long name. -/
def long (r : Reading) (name : String) (value : Option String) : Except Stop Reading :=
  match name, value with
  | "verbose", none => r.setVerbose
  | "fail-closed", none => r.setFailClosed
  | "help", none => .error (.help r.verb)
  | "version", none => if r.verb.isNone then .error .version else .error .fault
  | name, value =>
    match SoakOption.ofName? name with
    | none => .error .fault
    | some o =>
      if r.verb != some .bench then .error .fault
      else
        match value with
        | some v => r.setOption o v
        | none => .ok { r with waiting := some o }

/-- Reads a word: the service of a command that is about one. -/
def word (r : Reading) (s : String) : Except Stop Reading :=
  match r.verb, r.service, Uuid.ofText? s with
  | some verb, none, some id =>
    if verb.takesService then .ok { r with service := some id } else .error .fault
  | _, _, _ => .error .fault

/-- Reads one argument. -/
def step (r : Reading) (s : String) : Except Stop Reading :=
  if r.escaped then
    if r.waiting.isSome then .error .fault else r.word s
  else
    match r.waiting, Argument.ofText s with
    | some o, .word value => r.setOption o value
    | some _, _ => .error .fault
    | none, .escape => .ok { r with escaped := true }
    | none, .long name value => r.long name value
    | none, .short letters => r.short letters
    | none, .word s => r.word s

/-- Reads arguments to the end. -/
def run : Reading → List String → Except Stop Reading
  | r, [] => if r.waiting.isSome then .error .fault else .ok r
  | r, s :: rest => do run (← r.step s) rest

/-- The command that has been read. -/
def command? (r : Reading) : Option Command :=
  match r.verb with
  | none => none
  | some .config => some .config
  | some .count => r.service.map .count
  | some .getCount => r.service.map .getCount
  | some .reset => r.service.map .reset
  | some .bench =>
    let d : SoakSize := {}
    some (.soak {
      services := r.services.getD d.services
      requests := r.requests.getD d.requests
      workers := r.workers.getD d.workers })

end Reading

/-- What a call for help on these topics comes to: on none, or on one command, it is heard. -/
def helpOn : List String → Stop
  | [] | ["help"] => .help none
  | [topic] =>
    match Verb.ofName? topic with
    | some verb => .help (some verb)
    | none => .fault
  | _ => .fault

/-- Reads the arguments behind the program's own. -/
def readCommand (outer : Reading) (verb : Verb) (rest : List String) : Except Stop Invocation := do
  let inner ← Reading.run { verb := some verb } rest
  match inner.command? with
  | none => .error .fault
  | some command =>
    return {
      verbose := outer.verbose || inner.verbose
      failClosed := outer.failClosed || inner.failClosed
      command }

/-- Reads the program's own arguments up to the command, and then those of the command. -/
def readFrom (r : Reading) : List String → Except Stop Invocation
  | [] => .error .fault
  | s :: rest =>
    match Argument.ofText s with
    | .escape => .error .fault
    | .word name =>
      match Verb.ofName? name with
      | some verb => readCommand r verb rest
      | none => if name == "help" then .error (helpOn rest) else .error .fault
    | _ => do readFrom (← r.step s) rest

/-- The invocation that arguments ask for. -/
def Invocation.ofArguments (args : List String) : Except Stop Invocation :=
  readFrom {} args

end Tollgate.CommandLine
