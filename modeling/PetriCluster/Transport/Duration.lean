/-!
# Spans of time in words

A span of milliseconds is written in the largest unit that leaves at least one before the point:
seconds with as many places as are needed, or milliseconds. No time at all is `0ns`.
-/

namespace PetriCluster.Duration

/-- The three decimal places of a second, without zeros at the end. -/
def places (ms : Nat) : String :=
  let digits := [ms / 100 % 10, ms / 10 % 10, ms % 10]
  let kept := (digits.reverse.dropWhile (· == 0)).reverse
  if kept.isEmpty then "" else "." ++ String.join (kept.map toString)

/-- A time in words. -/
def text (ms : Nat) : String :=
  if ms = 0 then "0ns"
  else if ms < 1000 then s!"{ms}ms"
  else s!"{ms / 1000}{places (ms % 1000)}s"

end PetriCluster.Duration
