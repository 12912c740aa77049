import Tollgate.Config.Environment
import Tollgate.Text.Alphanumeric

/-!
Files of variables: one `NAME=value` a line, perhaps behind `export`, with comments behind `#`. A
value may be quoted, and then run over several lines; outside single quotes `$NAME` and `$\x7bNAME\x7d`
stand for variables set before, in the file or outside.

A variable that is set already keeps its value. The first line that is not well formed ends the
file, and what came before it counts. A name that is set is ASCII and may hold underscores and
points; a name behind `$` without braces ends with its last letter or digit, of any script.
-/

namespace Tollgate.EnvFile

/-- The names that a file may refer to: its longest runs of letters, digits and underscores. -/
def namesIn (text : String) : List String :=
  let isPart (c : Char) : Bool := Text.isAlphanumeric c || c = '_'
  (text.toList.splitBy fun c d => isPart c && isPart d).map String.ofList

/-- What a line that has been read so far leaves open: nothing, a quoted part, a backslash, or a space
behind which a comment may start. -/
inductive Open
  | nothing
  | space
  | escape
  | weak
  | weakEscape
  | strong
  | strongEscape
deriving DecidableEq, Repr

/-- What is open after one more character. -/
def Open.step : Open → Char → Open
  | nothing, c =>
    if Text.isBlank c && c != '\n' && c != '\r' then space
    else if c = '\\' then escape
    else if c = '"' then weak
    else if c = '\'' then strong
    else nothing
  | space, c =>
    if c = '\\' then escape
    else if c = '"' then weak
    else if c = '\'' then strong
    else nothing
  | escape, _ => nothing
  | weak, c => if c = '\\' then weakEscape else if c = '"' then nothing else weak
  | weakEscape, _ => weak
  | strong, c => if c = '\\' then strongEscape else if c = '\'' then nothing else strong
  | strongEscape, _ => strong

/-- The part of a line before a comment, and what is open at its end; none if a comment ends it. -/
def scan : Open → List Char → List Char × Option Open
  | o, [] => ([], some o)
  | o, c :: rest =>
    if o = .space ∧ c = '#' then ([], none)
    else
      let (kept, final) := scan (o.step c) rest
      (c :: kept, final)

/-- A text cut behind every line feed. -/
def cutLines : List Char → List (List Char)
  | [] => []
  | c :: rest =>
    if c = '\n' then [c] :: cutLines rest
    else
      match cutLines rest with
      | [] => [[c]]
      | line :: lines => (c :: line) :: lines

/-- A line without its line feed, and without a carriage return before that. -/
def chomp (cs : List Char) : List Char :=
  match cs.reverse with
  | '\n' :: '\r' :: rest => rest.reverse
  | '\n' :: rest => rest.reverse
  | _ => cs

/-- The lines of a file, each with those that its open quotes take in. A file that ends with something
open has a broken line at its end. -/
def logicalLines (o : Open) (pending : List Char) : List (List Char) → List (Option (List Char))
  | [] => if o = .nothing then [] else [none]
  | line :: rest =>
    let all := pending ++ line
    if (Text.trimStart all).head? = some '#' then some [] :: logicalLines .nothing [] rest
    else
      match scan o line with
      | (kept, none) => some (pending ++ kept) :: logicalLines .nothing [] rest
      | (_, some .nothing) => some (chomp all) :: logicalLines .nothing [] rest
      | (_, some o) => logicalLines o all rest

/-- Where the reading of a value stands: in plain text; behind a backslash; in single quotes; in the
name of a variable, with braces or without; behind the value; or in a comment. -/
inductive Place
  | text
  | escaped
  | strong
  | name (braced : Bool) (seen : List Char)
  | ended
  | comment
deriving DecidableEq, Repr

/-- A value as far as it has been read, in reverse, and whether double quotes are open. -/
structure Reading where
  place : Place := .text
  weak : Bool := false
  done : List Char := []

namespace Reading

/-- Adds a character to the value. -/
def push (r : Reading) (c : Char) : Reading :=
  { r with place := .text, done := c :: r.done }

/-- Adds the value of a variable, nothing if it is not set. The name comes in reverse. -/
def substitute (vars : Environment.Lookup) (r : Reading) (seen : List Char) : Reading :=
  let value := (vars (String.ofList seen.reverse)).getD ""
  { r with place := .text, done := value.toList.reverse ++ r.done }

/-- Reads one character, unless it cannot stand there. -/
def step (vars : Environment.Lookup) (r : Reading) (c : Char) : Option Reading :=
  match r.place with
  | .comment => some r
  | .ended =>
    if c = ' ' || c = '\t' then some r
    else if c = '#' then some { r with place := .comment }
    else none
  | .escaped =>
    if c = '\\' || c = '\'' || c = '"' || c = '$' || c = ' ' then some (r.push c)
    else if c = 'n' then some (r.push '\n')
    else none
  | .strong => if c = '\'' then some { r with place := .text } else some { r with done := c :: r.done }
  | .name true seen =>
    if c = '\x7d' then some (r.substitute vars seen)
    else some { r with place := .name true (c :: seen) }
  | .name false seen =>
    if Text.isAlphanumeric c then some { r with place := .name false (c :: seen) }
    else if c = '\x7b' && seen.isEmpty then some { r with place := .name true [] }
    else
      let r := r.substitute vars seen
      if c = '$' then some { r with place := .name false [] } else some (r.push c)
  | .text =>
    if c = '$' then some { r with place := .name false [] }
    else if c = '\\' then some { r with place := .escaped }
    else if c = '"' then some { r with weak := !r.weak }
    else if r.weak then some (r.push c)
    else if c = '\'' then some { r with place := .strong }
    else if c = ' ' || c = '\t' then some { r with place := .ended }
    else some (r.push c)

/-- Reads characters in order. -/
def run (vars : Environment.Lookup) : Reading → List Char → Option Reading
  | r, [] => some r
  | r, c :: rest => do run vars (← r.step vars c) rest

/-- The value at the end of the text, unless quotes or braces are open. -/
def finish (vars : Environment.Lookup) (r : Reading) : Option (List Char) :=
  if r.weak then none
  else
    match r.place with
    | .strong | .name true _ => none
    | .name false seen => some (r.substitute vars seen).done.reverse
    | _ => some r.done.reverse

end Reading

/-- The value that a text denotes. -/
def value? (vars : Environment.Lookup) (cs : List Char) : Option String := do
  let r ← Reading.run vars {} cs
  return String.ofList (← r.finish vars)

/-- A name at the start of a text, and what follows it. -/
def name? : List Char → Option (List Char × List Char)
  | [] => none
  | c :: rest =>
    if c.isAlpha || c = '_' then
      let isPart (d : Char) : Bool := d.isAlphanum || d = '_' || d = '.'
      some (c :: rest.takeWhile isPart, rest.dropWhile isPart)
    else none

/-- What follows an equals sign at the start of a text. -/
def afterEquals? : List Char → Option (List Char)
  | '=' :: rest => some rest
  | _ => none

/-- The name that a line sets and the text behind the equals sign. The word `export` may stand
before the name, or be the name. -/
def assignment? (cs : List Char) : Option (List Char × List Char) := do
  let (name, rest) ← name? cs
  let rest := Text.trimStart rest
  match afterEquals? rest with
  | some value => return (name, value)
  | none =>
    if name = "export".toList then
      let (name, rest) ← name? rest
      return (name, ← afterEquals? (Text.trimStart rest))
    else none

/-- What a line does: nothing, or it sets a variable; or it is not well formed. -/
def line? (vars : Environment.Lookup) (cs : List Char) : Option (Option (String × String)) :=
  let cs := Text.trimStart (Text.trimEnd cs)
  let isOver (cs : List Char) : Bool := cs.isEmpty || cs.head? = some '#'
  if isOver cs then some none
  else do
    let (name, rest) ← assignment? cs
    let rest := Text.trimStart rest
    let value ← if isOver rest then some "" else value? vars rest
    return some (String.ofList name, value)

/-- The variables with those that lines add. -/
def addLines (vars : Environment.Lookup) : List (Option (List Char)) → Environment.Lookup
  | [] => vars
  | line :: rest =>
    match line.bind (line? vars) with
    | none => vars
    | some none => addLines vars rest
    | some (some (name, value)) =>
      if (vars name).isSome then addLines vars rest
      else addLines (fun n => if n = name then some value else vars n) rest

/-- The variables with those that a file adds. A byte order mark at its start is passed over. -/
def load (vars : Environment.Lookup) (text : String) : Environment.Lookup :=
  let cs := match text.toList with
    | '\uFEFF' :: rest => rest
    | cs => cs
  addLines vars (logicalLines .nothing [] (cutLines cs))

end Tollgate.EnvFile
