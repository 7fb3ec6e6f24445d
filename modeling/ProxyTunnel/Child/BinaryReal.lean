import ProxyTunnel.Text.Raw

/-!
Real numbers in binary floating point and their decimal texts. A number is rounded to a count of
binary digits, and its exact value to decimal places; half goes to the even neighbour.
-/

set_option autoImplicit false

namespace ProxyTunnel

structure BinaryReal where
  mantissa : Nat
  exponent : Int
deriving DecidableEq, Repr

namespace BinaryReal

def roundDivide (a b : Nat) : Nat :=
  let q := a / b
  let r := a % b
  if 2 * r < b then q else if b < 2 * r then q + 1 else if q % 2 = 0 then q else q + 1

def ofQuotient (bits a b : Nat) : BinaryReal :=
  if a = 0 then ⟨0, 0⟩
  else
    let guess : Int := (Nat.log2 a : Int) - Nat.log2 b - bits + 1
    let scaled (e : Int) : Nat :=
      if 0 ≤ e then roundDivide a (b * Nat.pow 2 e.toNat)
      else roundDivide (a * Nat.pow 2 (-e).toNat) b
    let low := scaled guess
    if low < Nat.pow 2 (bits - 1) then ⟨scaled (guess - 1), guess - 1⟩
    else if Nat.pow 2 bits ≤ low then ⟨scaled (guess + 1), guess + 1⟩
    else ⟨low, guess⟩

def quotient (r : BinaryReal) : Nat × Nat :=
  if 0 ≤ r.exponent then (r.mantissa * Nat.pow 2 r.exponent.toNat, 1)
  else (r.mantissa, Nat.pow 2 (-r.exponent).toNat)

def withPoint (n places : Nat) (pointToo : Bool) : String :=
  let digits := toString n
  let digits := String.ofList (List.replicate (places + 1 - digits.length) '0') ++ digits
  let front := Raw.take digits (digits.length - places)
  if places = 0 then front ++ (if pointToo then "." else "")
  else front ++ "." ++ Raw.drop digits (digits.length - places)

def fixed (r : BinaryReal) (places : Nat) (pointToo : Bool) : String :=
  let (a, b) := r.quotient
  withPoint (roundDivide (a * Nat.pow 10 places) b) places pointToo

-- The decimal exponent of the first digit after rounding to `places` digits behind it, and all the
-- digits as one number.
def scientificParts (r : BinaryReal) (places : Nat) : Int × Nat :=
  let (a, b) := r.quotient
  if a = 0 then (0, 0)
  else
    let estimate : Int := ((toString (a / b)).length : Int) - 1
    let start : Int :=
      if b ≤ a then estimate else -((toString (b / a)).length : Int)
    let digits (e : Int) : Nat :=
      let shift : Int := places - e
      if 0 ≤ shift then roundDivide (a * Nat.pow 10 shift.toNat) b
      else roundDivide a (b * Nat.pow 10 (-shift).toNat)
    let low := digits start
    let fits (n : Nat) : Bool := Nat.pow 10 places ≤ n && n < Nat.pow 10 (places + 1)
    if fits low then (start, low)
    else if fits (digits (start + 1)) then (start + 1, digits (start + 1))
    else (start - 1, digits (start - 1))

def exponentText (letter : Char) (e : Int) : String :=
  let digits := toString e.natAbs
  String.ofList [letter, if e < 0 then '-' else '+']
    ++ (if digits.length < 2 then "0" else "") ++ digits

def scientific (r : BinaryReal) (places : Nat) (letter : Char) (pointToo : Bool) : String :=
  let (e, digits) := r.scientificParts places
  withPoint digits places pointToo ++ exponentText letter e

def withoutZeros (text : String) : String :=
  if text.toList.contains '.' then
    let cs := text.toList.reverse.dropWhile (· = '0')
    String.ofList (if cs.head? = some '.' then cs.tail else cs).reverse
  else text

def general (r : BinaryReal) (digits : Nat) (letter : Char) (zerosToo : Bool) : String :=
  let digits := max 1 digits
  let (e, all) := r.scientificParts (digits - 1)
  let trim (text : String) : String := if zerosToo then text else withoutZeros text
  if e < -4 ∨ (digits : Int) ≤ e then
    trim (withPoint all (digits - 1) zerosToo) ++ exponentText letter e
  else trim (r.fixed ((digits : Int) - 1 - e).toNat zerosToo)

-- The number at the start of a text in decimal notation, as sign and quotient, and what follows.
def read? (cs : List Char) : Option (Bool × Nat × Nat × List Char) :=
  let (negative, cs) :=
    match cs with
    | '-' :: rest => (true, rest)
    | '+' :: rest => (false, rest)
    | rest => (false, rest)
  let number (ds : List Char) : Nat := ds.foldl (fun n c => 10 * n + (c.toNat - 48)) 0
  let front := cs.takeWhile Char.isDigit
  let rest := cs.drop front.length
  let (back, rest) :=
    match rest with
    | '.' :: more =>
        let back := more.takeWhile Char.isDigit
        (back, more.drop back.length)
    | rest => ([], rest)
  if front.isEmpty && back.isEmpty then none
  else
    let (e, rest) : Int × List Char :=
      match rest with
      | c :: more =>
          let (sign, ds) : Int × List Char :=
            match more with
            | '-' :: ds => (-1, ds)
            | '+' :: ds => (1, ds)
            | ds => (1, ds)
          let digits := ds.takeWhile Char.isDigit
          if (c = 'e' ∨ c = 'E') ∧ digits ≠ [] then
            (sign * min (number digits) 5000, ds.drop digits.length)
          else (0, c :: more)
      | [] => (0, [])
    let scale : Int := e - back.length
    let n := number (front ++ back)
    if 0 ≤ scale then some (negative, n * Nat.pow 10 scale.toNat, 1, rest)
    else some (negative, n, Nat.pow 10 (-scale).toNat, rest)

end BinaryReal

end ProxyTunnel
