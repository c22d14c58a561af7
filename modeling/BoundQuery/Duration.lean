/-!
# Durations

Whole seconds and nanoseconds below one second. The text of a duration is in the
largest unit, of seconds down to nanoseconds, of which it holds one, with as
many decimals as needed and no more.
-/

namespace BoundQuery

structure Duration where
  seconds : Nat
  nanos : Nat
  deriving DecidableEq, Repr

namespace Duration

def nanosPerSecond : Nat := 1000000000

/-- Carries whole seconds over from the nanoseconds; seconds have 64 bits. -/
def ofParts? (seconds nanos : Nat) : Option Duration :=
  let total := seconds + nanos / nanosPerSecond
  if total < UInt64.size then some ⟨total, nanos % nanosPerSecond⟩ else none

def ofMillis (millis : Nat) : Duration := ⟨millis / 1000, millis % 1000 * 1000000⟩

def inNanos (d : Duration) : Nat := d.seconds * nanosPerSecond + d.nanos

/-- The shorter first. -/
instance : LT Duration := ⟨fun d d' => d.inNanos < d'.inNanos⟩

instance (d d' : Duration) : Decidable (d < d') :=
  inferInstanceAs (Decidable (d.inNanos < d'.inNanos))

/-- The decimals of a fraction of which there are `places`, without zeros at the end. -/
def decimals (places fraction : Nat) : List Char :=
  let ds := Nat.toDigits 10 fraction
  let padded := List.replicate (places - ds.length) '0' ++ ds
  (padded.reverse.dropWhile (· == '0')).reverse

def decimalText (whole places fraction : Nat) : String :=
  let point := if fraction = 0 then [] else '.' :: decimals places fraction
  String.ofList (Nat.toDigits 10 whole ++ point)

def text (d : Duration) : String :=
  if 0 < d.seconds then decimalText d.seconds 9 d.nanos ++ "s"
  else if 1000000 ≤ d.nanos then decimalText (d.nanos / 1000000) 6 (d.nanos % 1000000) ++ "ms"
  else if 1000 ≤ d.nanos then decimalText (d.nanos / 1000) 3 (d.nanos % 1000) ++ "µs"
  else decimalText d.nanos 0 0 ++ "ns"

example : (Duration.mk 1 500000000).text = "1.5s" := by decide +kernel

example : (Duration.mk 0 10010).text = "10.01µs" := by decide +kernel

example : (Duration.mk 0 0).text = "0ns" := by decide +kernel

end Duration
end BoundQuery
