import Unsugar.Decimal.Fixed

/-!
# Timings

The time each phase of a run took, in nanoseconds, in the order in which the phases were first
recorded.
-/

namespace Unsugar

/-- Phases with their times. -/
abbrev Timings := List (String × Nat)

namespace Timings

/-- The timings with the time of a phase set, in its place if it was recorded before. -/
def record (name : String) (nanos : Nat) : Timings → Timings
  | [] => [(name, nanos)]
  | (n, t) :: rest => if n = name then (n, nanos) :: rest else (n, t) :: record name nanos rest

def get? (timings : Timings) (name : String) : Option Nat := timings.lookup name

def nanosPerSecond : Nat := 1000000000

/-- A time in seconds: the whole seconds and the fraction are converted apart. -/
def seconds (nanos : Nat) : Float :=
  (UInt64.ofNat (nanos / nanosPerSecond)).toFloat
    + (UInt64.ofNat (nanos % nanosPerSecond)).toFloat / 1e9

/-- A time with nine places, right-aligned. -/
def secondsText (nanos : Nat) : String :=
  let text := Decimal.fixed 9 (seconds nanos)
  String.ofList (List.replicate (14 - text.length) ' ' ++ text)

/-- A line per phase, the names padded to one more than the bytes of the longest. -/
def render (timings : Timings) : String :=
  let width := (timings.map (·.1.utf8ByteSize)).foldl max 0 + 1
  String.join (timings.map fun (name, nanos) =>
    let padded := name.pushn ' ' (width - name.length)
    s!"{padded}: {secondsText nanos}s\n")

end Timings

end Unsugar
