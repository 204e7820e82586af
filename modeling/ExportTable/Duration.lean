/-!
# Durations and their texts

A duration is written in the largest of four units of which it holds at least one, with a fraction
down to the nanosecond and without trailing zeros, as in `1.5ms`.
-/

namespace ExportTable

structure Duration where
  nanoseconds : Nat
  deriving DecidableEq, Repr

namespace Duration

def ofMicroseconds (n : Nat) : Duration := ⟨1000 * n⟩

def ofSeconds (n : Nat) : Duration := ⟨1000000000 * n⟩

/-- The decimal text of `n / 10 ^ places`. -/
def decimal (n places : Nat) : String :=
  let fraction := Nat.toDigits 10 (n % Nat.pow 10 places)
  let padded := List.replicate (places - fraction.length) '0' ++ fraction
  match (padded.reverse.dropWhile (· = '0')).reverse with
  | [] => toString (n / Nat.pow 10 places)
  | digits => toString (n / Nat.pow 10 places) ++ "." ++ String.ofList digits

def text (d : Duration) : String :=
  if 1000000000 ≤ d.nanoseconds then decimal d.nanoseconds 9 ++ "s"
  else if 1000000 ≤ d.nanoseconds then decimal d.nanoseconds 6 ++ "ms"
  else if 1000 ≤ d.nanoseconds then decimal d.nanoseconds 3 ++ "µs"
  else toString d.nanoseconds ++ "ns"

end Duration

end ExportTable
