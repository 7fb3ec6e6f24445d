/-!
Decimal numerals of ASCII digits, with any number of leading zeros, and the texts that stand for
real numbers.
-/

set_option autoImplicit false

namespace ProxyTunnel.Decimal

def value (digits : List Char) : Nat :=
  digits.foldl (fun n c => 10 * n + (c.toNat - '0'.toNat)) 0

def read? (cs : List Char) : Option Nat :=
  if cs ≠ [] ∧ cs.all Char.isDigit then some (value cs) else none

def readSigned? : List Char → Option Nat
  | '+' :: digits => read? digits
  | digits => read? digits

def unsigned : List Char → List Char
  | '+' :: rest => rest
  | '-' :: rest => rest
  | text => text

def isExponent : List Char → Bool
  | [] => true
  | e :: rest => (e == 'e' || e == 'E') && (read? (unsigned rest)).isSome

-- Whether a text is a number without a sign: digits, among which there may be a point, and perhaps
-- an exponent.
def isUnsignedReal (text : List Char) : Bool :=
  let whole := text.takeWhile Char.isDigit
  match text.dropWhile Char.isDigit with
  | '.' :: rest =>
      (whole ++ rest.takeWhile Char.isDigit) != [] && isExponent (rest.dropWhile Char.isDigit)
  | rest => whole != [] && isExponent rest

def isReal (text : List Char) : Bool :=
  let text := unsigned text
  isUnsignedReal text
    || ["inf", "infinity", "nan"].contains (String.ofList (text.map Char.toLower))

def padded (width n : Nat) : List Char :=
  match width with
  | 0 => []
  | w + 1 => padded w (n / 10) ++ [(n % 10).digitChar]

end ProxyTunnel.Decimal
