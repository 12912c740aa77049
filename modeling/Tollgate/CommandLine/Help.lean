import Tollgate.CommandLine.Arguments
import Tollgate.Text.Column

/-!
The pages of help: one about the program and one about each command. A page says what it is about
and in which form it is written, and then explains the parts of that form in tables.
-/

namespace Tollgate.CommandLine

/-- What a command does. -/
def Verb.purpose : Verb → String
  | config => "Print the effective configuration"
  | count => "Count one send for a service today"
  | getCount => "Show today's send count for a service"
  | reset => "Reset today's send count for a service"
  | bench => "Soak the caches with concurrent authorizations against an in-memory store"

namespace Help

/-- A part of the form of a command and what it stands for. -/
structure Entry where
  form : String
  purpose : String
deriving DecidableEq, Repr

/-- The lines of entries in two columns, the first as wide as its widest form. -/
def table (entries : List Entry) : List String :=
  let width := (entries.map (·.form.length)).foldl max 0
  entries.map fun e => "  " ++ String.ofList (Text.toLeft width e.form.toList) ++ "  " ++ e.purpose

/-- A table under its title, apart from what stands before; nothing if it is empty. -/
def block (title : String) (entries : List Entry) : List String :=
  if entries.isEmpty then [] else "" :: (title ++ ":") :: table entries

/-- The first flag. -/
def verbose : Entry :=
  ⟨"-v, --verbose", "Enable verbose logging"⟩

/-- The second flag. -/
def failClosed : Entry :=
  ⟨"    --fail-closed", "Re-raise counter store failures instead of continuing without a count"⟩

/-- The call for help. -/
def help : Entry :=
  ⟨"-h, --help", "Print help"⟩

/-- The call for the version. -/
def version : Entry :=
  ⟨"-V, --version", "Print version"⟩

/-- An option of a soak, with the value that it has when it is left out. -/
def ofSoakOption (o : SoakOption) : Entry :=
  let d : SoakSize := {}
  match o with
  | .services =>
    ⟨"-s, --services <SERVICES>", s!"Number of distinct services [default: {d.services}]"⟩
  | .requests =>
    ⟨"-r, --requests <REQUESTS>", s!"Total authorizations to run [default: {d.requests}]"⟩
  | .workers =>
    ⟨"-c, --concurrency <CONCURRENCY>", s!"Concurrent workers [default: {d.workers}]"⟩

/-- The commands, and the one that asks for a page. -/
def commands : List Entry :=
  Verb.all.map (fun v => ⟨v.name, v.purpose⟩) ++
    [⟨"help", "Print this message or the help of the given subcommand(s)"⟩]

/-- The values of a command. -/
def values (v : Verb) : List Entry :=
  if v.takesService then [⟨"<SERVICE_ID>", "Service id"⟩] else []

/-- The flags and options of the program itself or of a command. -/
def options : Option Verb → List Entry
  | none => [verbose, failClosed, help, version]
  | some .bench =>
    [ofSoakOption .services, verbose, failClosed, ofSoakOption .requests, ofSoakOption .workers, help]
  | some _ => [verbose, failClosed, help]

/-- The form of the arguments of the program or of a command. -/
def usage : Option Verb → String
  | none => "Usage: tollgate [OPTIONS] <COMMAND>"
  | some v => " ".intercalate (["Usage: tollgate", v.name, "[OPTIONS]"] ++ (values v).map (·.form))

/-- The page about the program or about a command. -/
def page (topic : Option Verb) : List String :=
  match topic with
  | none =>
    "Tollgate - request-time authentication & rate-limiting cache layer" :: "" :: usage none ::
      block "Commands" commands ++ block "Options" (options none)
  | some v =>
    v.purpose :: "" :: usage (some v) ::
      block "Arguments" (values v) ++ block "Options" (options (some v))

end Help

end Tollgate.CommandLine
