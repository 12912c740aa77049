import Tollgate.CommandLine.Soak
import Tollgate.Text.Column
import Tollgate.Text.Shortest

/-!
The lines about a soak: one before it, and the results behind it.
-/

namespace Tollgate.CommandLine

/-- A time in the largest unit that it fills, without zeros at the end of its fraction. -/
def timeText (nanos : Nat) : String :=
  let (places, unit) :=
    if 1000000000 ≤ nanos then (9, "s")
    else if 1000000 ≤ nanos then (6, "ms")
    else if 1000 ≤ nanos then (3, "µs")
    else (0, "ns")
  let fraction := ((Decimal.padded places nanos).reverse.dropWhile (· = '0')).reverse
  let point := if fraction.isEmpty then [] else '.' :: fraction
  String.ofList (Decimal.digits (nanos / Nat.pow 10 places) ++ point) ++ unit

/-- The line of a cache: its hit ratio in percent to two places, and the counts behind it. -/
def cacheLine (name : String) (s : Cache.Stats) : String :=
  let percent := Text.toRight 6 (Decimal.fixed 2 (s.hitRatio * 100))
  "   " ++ String.ofList (Text.toLeft 15 name.toList) ++ " hit ratio " ++ String.ofList percent ++ "%  (" ++
    Decimal.text s.hits ++ " hits, " ++ Decimal.text s.misses ++ " misses, " ++
    Decimal.text s.expirations ++ " expired)"

/-- What is measured of a soak, as text: the time that it took and its speed. -/
structure SoakFigures where
  elapsed : String
  throughput : String
deriving DecidableEq, Repr

/-- The figures of a soak of so many requests in so many nanoseconds. -/
def SoakFigures.ofMeasured (requests nanos : Nat) : SoakFigures where
  elapsed := timeText nanos
  throughput :=
    let perSecond := requests.toFloat / (nanos.toFloat / 1000000000)
    String.ofList (Decimal.fixed 0 perSecond) ++ " authorizations/sec"

namespace Soak

/-- The line that announces a soak. -/
def opening (size : SoakSize) : String :=
  "📊 Soaking with " ++ Decimal.text size.requests ++ " authorizations over " ++
    Decimal.text (max size.services 1) ++ " services (" ++ Decimal.text (max size.workers 1) ++
    " workers)"

/-- The lines that tell how a soak went. -/
def results (x : Soak) (figures : SoakFigures) : List String :=
  let queries (side : Side) := Decimal.text (x.scene.stores.side side).store.queries
  let caches := Concern.all.map fun c =>
    cacheLine c.name (x.scene.memory.cache c).stats
  let verdict :=
    if x.denied = 0 then "   ✅ Every request authorized"
    else "   ❌ " ++ Decimal.text x.denied ++ " requests denied"
  ["", "📈 Results:", "   Elapsed: " ++ figures.elapsed, "   Throughput: " ++ figures.throughput,
    "   Replica queries: " ++ queries .replica ++ " (primary: " ++ queries .primary ++ ")"] ++
    caches ++ [verdict]

end Soak

end Tollgate.CommandLine
