/-!
# Spans of time and points on a time line

Both are counted in nanoseconds; a point in time is the span since the line began. Neither has a greatest
value, so a span may always be added to a point.
-/

namespace GoopOperator

/-- A span of time, in nanoseconds. -/
abbrev Duration := Nat

/-- A point in time: the span since the beginning, in nanoseconds. -/
abbrev Instant := Nat

namespace Duration

/-- The span of some milliseconds. -/
def ofMilliseconds (n : Nat) : Duration := n * 1000000

/-- The span of some seconds. -/
def ofSeconds (n : Nat) : Duration := n * 1000000000

/-- The whole milliseconds of a span. -/
def milliseconds (d : Duration) : Nat := d / 1000000

/-- The whole seconds of a span. -/
def seconds (d : Duration) : Nat := d / 1000000000

@[simp] theorem seconds_ofSeconds (n : Nat) : seconds (ofSeconds n) = n :=
  Nat.mul_div_cancel n (by decide)

@[simp] theorem milliseconds_ofMilliseconds (n : Nat) : milliseconds (ofMilliseconds n) = n :=
  Nat.mul_div_cancel n (by decide)

end Duration

end GoopOperator
