/-!
# Durations

A span of time in nanoseconds, and its text: the greatest unit of which there is at least one, with
as many decimals as it takes.
-/

namespace BindingCoverage.Extractor

structure Duration where
  nanos : Nat
  deriving DecidableEq, Repr

namespace Duration

def ofSeconds (n : Nat) : Duration := ⟨n * 1000000000⟩

def ofMillis (n : Nat) : Duration := ⟨n * 1000000⟩

/-- The decimals of `part / unit` for `part < unit`, where `unit` is a power of ten, up to the last
one that is not zero. -/
def decimals (part : Nat) : Nat → List Char
  | 0 => []
  | unit + 1 =>
    if part = 0 then []
    else
      let tenth := (unit + 1) / 10
      if tenth = 0 then []
      else Nat.digitChar (part / tenth) :: decimals (part % tenth) tenth
termination_by unit => unit
decreasing_by omega

/-- A number of units with its decimals. -/
def inUnit (nanos unit : Nat) (name : String) : String :=
  let fraction := decimals (nanos % unit) unit
  toString (nanos / unit) ++
    (if fraction.isEmpty then "" else "." ++ String.ofList fraction) ++ name

def text (d : Duration) : String :=
  if 1000000000 ≤ d.nanos then inUnit d.nanos 1000000000 "s"
  else if 1000000 ≤ d.nanos then inUnit d.nanos 1000000 "ms"
  else if 1000 ≤ d.nanos then inUnit d.nanos 1000 "µs"
  else inUnit d.nanos 1 "ns"

end Duration

end BindingCoverage.Extractor
