import ProxyTunnel.Child.Tool.Basic
import ProxyTunnel.Text.Decimal

/-!
The tool that counts: numbers with a fixed number of decimal places, from a first to a last one.
-/

set_option autoImplicit false

namespace ProxyTunnel.Tool

structure FixedPoint where
  units : Int
  places : Nat
deriving DecidableEq, Repr

namespace FixedPoint

def read? (text : String) : Option FixedPoint :=
  let (negative, cs) :=
    match text.toList with
    | '-' :: rest => (true, rest)
    | '+' :: rest => (false, rest)
    | rest => (false, rest)
  let whole := cs.takeWhile Char.isDigit
  let (places, rest) :=
    match cs.drop whole.length with
    | '.' :: rest => (rest.takeWhile Char.isDigit, rest.dropWhile Char.isDigit)
    | rest => ([], rest)
  if (whole.isEmpty && places.isEmpty) || !rest.isEmpty then none
  else
    let n := Decimal.value (whole ++ places)
    some ⟨if negative then -(n : Int) else n, places.length⟩

def scaled (places : Nat) (x : FixedPoint) : Int := x.units * (Nat.pow 10 (places - x.places) : Nat)

def text (places : Nat) (units : Int) : String :=
  let base := Nat.pow 10 places
  let n := units.natAbs
  let whole := toString (n / base)
  let part := if places = 0 then "" else "." ++ String.ofList (Decimal.padded places (n % base))
  (if units < 0 then "-" else "") ++ whole ++ part

end FixedPoint

namespace Sequence

-- The options in front of the numbers: what stands between them, and whether all become equally
-- wide. A minus sign in front of a digit belongs to a number.
def options (separator : String) (padded : Bool) :
    List String → Except String (String × Bool × List String)
  | "-s" :: s :: rest => options s padded rest
  | "-s" :: [] => .error "option requires an argument -- 's'"
  | a :: rest =>
      match a.toList with
      | ['-', 'w'] => options separator true rest
      | ['-', '-'] => .ok (separator, padded, rest)
      | '-' :: 's' :: s => options (String.ofList s) padded rest
      | '-' :: '-' :: name =>
          let name := String.ofList name
          if Raw.begins name "separator=" then options (Raw.drop name 10) padded rest
          else if name = "equal-width" then options separator true rest
          else .error ("unrecognized option '" ++ a ++ "'")
      | '-' :: c :: _ =>
          if c.isDigit || c == '.' then .ok (separator, padded, a :: rest)
          else .error ("invalid option -- '" ++ String.singleton c ++ "'")
      | _ => .ok (separator, padded, a :: rest)
  | [] => .ok (separator, padded, [])

def numbers (first step last : FixedPoint) : List String :=
  let places := max first.places step.places
  let fine := max places last.places
  let (a, d, z) := (first.scaled fine, step.scaled fine, last.scaled fine)
  let count := if (0 < d ∧ a ≤ z) ∨ (d < 0 ∧ z ≤ a) then ((z - a) / d).toNat + 1 else 0
  (List.range count).map fun (k : Nat) =>
    FixedPoint.text places (first.scaled places + step.scaled places * (k : Int))

def widened (width : Nat) (text : String) : String :=
  let zeros := String.ofList (List.replicate (width - text.length) '0')
  if Raw.begins text "-" then "-" ++ zeros ++ Raw.drop text 1 else zeros ++ text

end Sequence

def seq (r : Request) : Act PUnit := do
  match Sequence.options "\n" false r.arguments with
  | .error problem => Act.misuse r problem 1
  | .ok (separator, padded, operands) =>
      if operands.isEmpty then Act.misuse r "missing operand" 1
      if 3 < operands.length then Act.misuse r ("extra operand '" ++ operands.getD 3 "" ++ "'") 1
      match operands.find? fun a => (FixedPoint.read? a).isNone with
      | some a => Act.misuse r ("invalid floating point argument: '" ++ a ++ "'") 1
      | none =>
          let one : FixedPoint := ⟨1, 0⟩
          let (first, step, last) :=
            match operands.filterMap FixedPoint.read? with
            | [first, last] => (first, one, last)
            | [first, step, last] => (first, step, last)
            | given => (one, one, given.headD one)
          if step.units = 0 then
            Act.misuse r ("invalid Zero increment value: '" ++ operands.getD 1 "" ++ "'") 1
          let texts := Sequence.numbers first step last
          let width := texts.foldl (fun n text => max n text.length) 0
          let shown := if padded then texts.map (Sequence.widened width) else texts
          if !texts.isEmpty then Act.print (separator.intercalate shown ++ "\n")

end ProxyTunnel.Tool
