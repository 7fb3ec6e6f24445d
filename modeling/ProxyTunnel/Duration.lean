import ProxyTunnel.Text.Decimal

/-!
Lengths of time, exact to the nanosecond.
-/

set_option autoImplicit false

namespace ProxyTunnel

structure Duration where
  nanos : Nat
deriving DecidableEq, Repr, Inhabited

namespace Duration

def nanosPerMilli : Nat := 1000000

def nanosPerSecond : Nat := 1000000000

def ofMillis (n : Nat) : Duration := ⟨n * nanosPerMilli⟩

def millis (d : Duration) : Nat := d.nanos / nanosPerMilli

@[simp] theorem millis_ofMillis (n : Nat) : (ofMillis n).millis = n := by
  simp [ofMillis, millis, nanosPerMilli]

def fraction (places part : Nat) : String :=
  match ((Decimal.padded places part).reverse.dropWhile (· = '0')).reverse with
  | [] => ""
  | digits => "." ++ String.ofList digits

def text (d : Duration) : String :=
  let inUnit (places : Nat) (unit : String) :=
    toString (d.nanos / Nat.pow 10 places) ++ fraction places (d.nanos % Nat.pow 10 places) ++ unit
  if Nat.pow 10 9 ≤ d.nanos then inUnit 9 "s"
  else if Nat.pow 10 6 ≤ d.nanos then inUnit 6 "ms"
  else if Nat.pow 10 3 ≤ d.nanos then inUnit 3 "µs"
  else inUnit 0 "ns"

end Duration

end ProxyTunnel
