/-!
# Spans of time in words

`describeSpan` writes a number of seconds in the two largest units of the table w, d, h, m, s; the
remainder below the smaller unit is dropped.
-/

namespace TrusteeBoard

/-- The units of a span, largest first, with their length in seconds. -/
def spanUnits : List (Nat × String) :=
  [(604800, "w"), (86400, "d"), (3600, "h"), (60, "m"), (1, "s")]

/-- The span in the first unit of `units` that it reaches and the unit after that. -/
def describeIn (units : List (Nat × String)) (secs : Nat) : String :=
  match units with
  | [] => "0s"
  | (size, unit) :: smaller =>
    if secs < size then describeIn smaller secs
    else
      match smaller with
      | [] => s!"{secs}{unit}"
      | (next, nextUnit) :: _ => s!"{secs / size}{unit} {secs % size / next}{nextUnit}"

/-- A span of seconds in its two largest units, such as `24w 0d` or `20m 0s`. -/
def describeSpan (secs : UInt64) : String :=
  describeIn spanUnits secs.toNat

end TrusteeBoard
