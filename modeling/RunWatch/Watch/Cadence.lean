import RunWatch.Log
import RunWatch.Text.Blank
import RunWatch.Text.Numeral

/-!
# Cadence

When something that happens at a fixed interval happens: at once, and then after every interval, however
long each occurrence takes.  Times are in milliseconds.
-/

namespace RunWatch.Watch

/-- The times before `limit` at which something with this interval happens.  Nothing happens at an interval
of zero. -/
def ticks (interval limit : Nat) : List Nat :=
  if interval = 0 then []
  else (List.range ((limit + interval - 1) / interval)).map (· * interval)

/-- The times before `limit` at which the occurrences end that take `busy` each. -/
def tickEnds (interval busy limit : Nat) : List Nat :=
  ((ticks interval limit).map (· + busy)).filter (· < limit)

/-- An interval in words: in seconds with the fewest decimals, or in milliseconds below one second. -/
def intervalText (ms : Nat) : String :=
  if ms = 0 then "0ns"
  else if ms < 1000 then toString ms ++ "ms"
  else
    let fraction := Text.dropRightWhile (· = '0') (Text.padded 3 (ms % 1000))
    String.ofList ((toString (ms / 1000)).toList ++ (if fraction.isEmpty then [] else '.' :: fraction)) ++ "s"

/-- What is reported when cycles at this interval begin. -/
def startReport (ms : Nat) : LogEntry :=
  .info .watcher ("Starting run poller (interval: " ++ intervalText ms ++ ")")

end RunWatch.Watch
