import Latchkey.Decimal.Layout

namespace Latchkey

/-- An instant: nanoseconds since the clock was started. There is no last one: a duration behind an
instant is taken to end at an instant that a clock can show. -/
abbrev Time := Nat

/-- A length of time in nanoseconds. -/
abbrev Duration := Nat

namespace Duration

def nanosPerSecond : Nat := 1000000000

def seconds (n : Nat) : Duration := n * nanosPerSecond

def millis (n : Nat) : Duration := n * 1000000

/-- The whole seconds of a duration, and the nanoseconds over them. -/
def parts (d : Duration) : Nat × Nat := (d / nanosPerSecond, d % nanosPerSecond)

/-- A duration as a number of seconds. -/
def toSeconds (d : Duration) : Float :=
  (parts d).1.toUInt64.toFloat + (parts d).2.toUInt64.toFloat / 1000000000.0

/-- The seconds of a duration as a part of a key: `60`, `0.5`. -/
def secondsText (d : Duration) : String := Decimal.Layout.seconds.render (toSeconds d)

end Duration
end Latchkey
