import Tollgate.Config.Basic
import Tollgate.Counter.Host
import Tollgate.Text.Percent

/-!
The address of a counter store, and when it can be used. Behind `redis://` it names a user with a
password up to the last `@`, a host and a port; then, from the first `/`, `?` or `#` on, a path
that names a database by number, and a query that may name the version of the protocol.

Tabs and line breaks in an address have no meaning.
-/

namespace Tollgate.Counter

/-- The parts of an address that can still be at fault once it is read. The path has no dot
segments. -/
structure Address where
  user : List Char := []
  password : List Char := []
  hasHost : Bool := true
  path : List (List Char) := []
  query : List Char := []
deriving DecidableEq, Repr

namespace Address

/-- Whether a path, a query or a fragment starts here. -/
def isEnd (c : Char) : Bool :=
  c = '/' || c = '?' || c = '#'

/-- What stands before the last `@`, if there is one, and what stands behind it. -/
def splitLogin (cs : List Char) : Option (List Char) × List Char :=
  let site := (cs.reverse.takeWhile (· ≠ '@')).reverse
  if site.length < cs.length then (some (cs.take (cs.length - site.length - 1)), site)
  else (none, site)

/-- The text up to the first colon outside brackets, and what follows. -/
def splitHost : Bool → List Char → List Char × List Char
  | _, [] => ([], [])
  | inside, c :: rest =>
    if c = ':' ∧ inside = false then ([], c :: rest)
    else
      let (host, tail) := splitHost (if c = '[' then true else if c = ']' then false else inside) rest
      (c :: host, tail)

/-- What follows the port behind a host: nothing, or a path that starts with a backslash. A port is
a number of 16 bits, or left out. -/
def afterPort? : List Char → Option (List Char)
  | ':' :: cs =>
    let tail := cs.dropWhile Decimal.isDigit
    if UInt16.size ≤ Decimal.value (cs.takeWhile Decimal.isDigit) then none
    else if tail.isEmpty || tail.head? == some '\\' then some tail
    else none
  | cs => some cs

/-- A segment with dots for their encoded forms. -/
def plainDots : List Char → List Char
  | '%' :: '2' :: 'e' :: rest | '%' :: '2' :: 'E' :: rest => '.' :: plainDots rest
  | c :: rest => c :: plainDots rest
  | [] => []

/-- Whether a segment is the letter of a drive: no way leads up from there. -/
def isDrive : List Char → Bool
  | a :: b :: rest =>
    a.isAlpha && (b = ':' || b = '|') && (rest.isEmpty || rest.head? == some '\\')
  | _ => false

/-- Goes through the segments of a path with those before in reverse: one dot stays, and two dots go
up. -/
def resolve : List (List Char) → List (List Char) → List (List Char)
  | done, [] => done.reverse
  | done, segment :: rest =>
    if plainDots segment = ['.'] then resolve done rest
    else if plainDots segment = ['.', '.'] then
      match done with
      | [] => resolve [] rest
      | last :: before => resolve (if isDrive last then last :: before else before) rest
    else resolve (segment :: done) rest

/-- The segments of a path. -/
def segments (cs : List Char) : List (List Char) :=
  let cs := match cs with
    | '/' :: rest => rest
    | cs => cs
  resolve [] (cs.splitOn '/')

/-- Reads what stands behind `redis://`. Only an address without a user, password and port can do
without a host. -/
def ofText? (cs : List Char) : Option Address := do
  let cs := cs.filter fun c => !(c = '\t' || c = '\n' || c = '\r')
  let authority := cs.takeWhile fun c => !isEnd c
  let (login, site) := splitLogin authority
  let (host, tail) := splitHost false site
  guard (if host.isEmpty then tail.isEmpty && (login.isNone || login == some [':']) else isHost host)
  let more := (← afterPort? tail) ++ cs.drop authority.length
  let path := more.takeWhile fun c => c ≠ '?' && c ≠ '#'
  let query := (more.drop path.length).takeWhile (· ≠ '#')
  let login := login.getD []
  return {
    user := login.takeWhile (· ≠ ':')
    password := (login.dropWhile (· ≠ ':')).drop 1
    hasHost := !host.isEmpty
    path := segments path
    query := query.drop 1 }

/-- The text of the path without slashes at its ends. It names a database unless it is empty. -/
def database (a : Address) : List Char :=
  let path := (['/'].intercalate a.path).dropWhile (· = '/')
  (path.reverse.dropWhile (· = '/')).reverse

/-- The version of the protocol that the query names last. -/
def version? (a : Address) : Option String :=
  let named := (Percent.fields a.query).filter fun field => field.1 = "protocol".toList
  named.getLast?.map fun field => String.ofList field.2

end Address

/-- What is wrong with an address. -/
inductive AddressFault
  | unreadable
  | noHost
  | badDatabase
  | badUser
  | badPassword
  | badVersion (text : String)
deriving DecidableEq, Repr

/-- The wording of a fault. -/
def AddressFault.message : AddressFault → String
  | .unreadable => "Redis URL did not parse- InvalidClientConfig"
  | .noHost => "Missing hostname- InvalidClientConfig"
  | .badDatabase => "Invalid database number- InvalidClientConfig"
  | .badUser => "Username is not valid UTF-8 string- InvalidClientConfig"
  | .badPassword => "Password is not valid UTF-8 string- InvalidClientConfig"
  | .badVersion text => s!"Invalid protocol version - InvalidClientConfig: {text}"

/-- What is wrong with an address that has been read, if anything: the first in the order of host,
database, user, password and version. -/
def Address.fault? (a : Address) : Option AddressFault :=
  let isText (cs : List Char) : Bool := (Utf8.decode? (Percent.decode cs)).isSome
  if !a.hasHost then some .noHost
  else if !a.database.isEmpty && (Decimal.readInt64? a.database).isNone then some .badDatabase
  else if !isText a.user then some .badUser
  else if !isText a.password then some .badPassword
  else
    match a.version? with
    | none => none
    | some v => if v ∈ ["2", "3", "resp2", "resp3"] then none else some (.badVersion v)

/-- Checks the address in the settings. -/
def checkAddress (s : CounterSettings) : Outcome Unit :=
  let fault : Option AddressFault :=
    match Address.ofText? (s.url.toList.drop 8) with
    | none => some .unreadable
    | some a => a.fault?
  match fault with
  | none => .ok ()
  | some f => .error (.configuration s!"invalid redis url '{s.url}': {f.message}")

end Tollgate.Counter
