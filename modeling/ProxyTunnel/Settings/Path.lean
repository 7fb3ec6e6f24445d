import ProxyTunnel.Fault
import ProxyTunnel.Settings.Value
import ProxyTunnel.Text.Decimal

/-!
Paths to settings: a name, then any number of names after a dot and of integers in brackets. Names
consist of ASCII letters, digits, `_`, `-` and spaces.
-/

set_option autoImplicit false

namespace ProxyTunnel

inductive PathStep where
  | name (name : String)
  | index (index : Int)
deriving DecidableEq, Repr

structure Path where
  root : String
  steps : List PathStep
deriving DecidableEq, Repr

inductive PathProblem where
  | noName
  | unexpected
  | noDigits
  | indexRange
deriving DecidableEq, Repr

def PathProblem.reason : PathProblem → String
  | noName => "IsA"
  | unexpected => "Char"
  | noDigits => "Digit"
  | indexRange => "Map on Result"

namespace Path

def isNameChar (c : Char) : Bool := c.isAlphanum || c == '_' || c == '-' || c == ' '

def isGap (c : Char) : Bool := c == ' ' || c == '\t'

def splitName (cs : List Char) : List Char × List Char :=
  (cs.takeWhile isNameChar, cs.dropWhile isNameChar)

def indexBound : Int := Nat.pow 2 63

def indexOf (negative : Bool) (digits : List Char) : Except PathProblem Int :=
  let n : Int := if negative then -(Decimal.value digits : Int) else Decimal.value digits
  if digits = [] then .error .noDigits
  else if n < -indexBound ∨ indexBound ≤ n then .error .indexRange
  else .ok n

-- The integer in brackets at the start of a text, after the opening bracket, and what follows the
-- closing one. Gaps around the integer are skipped.
def splitIndex (cs : List Char) : Except PathProblem (Int × List Char) :=
  let cs := cs.dropWhile isGap
  let (negative, cs) : Bool × List Char :=
    match cs with
    | '-' :: rest => (true, rest)
    | _ => (false, cs)
  match indexOf negative (cs.takeWhile Char.isDigit) with
  | .error problem => .error problem
  | .ok n =>
      match (cs.dropWhile Char.isDigit).dropWhile isGap with
      | ']' :: rest => .ok (n, rest)
      | _ => .error .unexpected

def splitStep (cs : List Char) : Except PathProblem (PathStep × List Char) :=
  match cs with
  | '.' :: rest =>
      match splitName rest with
      | ([], _) => .error .unexpected
      | (name, rest) => .ok (.name (String.ofList name), rest)
  | '[' :: rest =>
      match splitIndex rest with
      | .error problem => .error problem
      | .ok (n, rest) => .ok (.index n, rest)
  | _ => .error .unexpected

def readSteps : Nat → List Char → Except PathProblem (List PathStep)
  | _, [] => .ok []
  | 0, _ => .error .unexpected
  | fuel + 1, c :: cs =>
      match splitStep (c :: cs) with
      | .error problem => .error problem
      | .ok (step, rest) => (readSteps fuel rest).map (step :: ·)

-- The path that a text spells. A step takes at least one character, so there are no more steps than
-- characters.
def read (text : String) : Except PathProblem Path :=
  match splitName text.toList with
  | ([], _) => .error .noName
  | (name, rest) => (readSteps rest.length rest).map (Path.mk (String.ofList name))

-- As `read`; a text that is no path stands for the setting of that very name.
def readLeniently (text : String) : Path :=
  match read text with
  | .ok path => path
  | .error _ => ⟨text, []⟩

-- The value in which `incoming` has been placed at the end of the steps from `old`. A step to a
-- name makes a table, a step to an index an array, which is as long as it must be; there is none if
-- an index has no place.
def place (incoming : Value) : List PathStep → Option Value → Option Value
  | [], old => some (Value.assign old incoming)
  | .name name :: steps, old =>
      let table := Value.asTable old
      let key := Text.lower name
      (place incoming steps (table.get? key)).map fun value => .table (table.put key value)
  | .index index :: steps, old =>
      let (length, items) := Value.asArray old
      match Value.placeOf? length index with
      | none => none
      | some place' =>
          let key := toString place'
          (place incoming steps (items.get? key)).map fun value =>
            .array (max length (place' + 1)) (items.put key value)

def set (path : Path) (table : Table) (value : Value) : Option Table :=
  let key := Text.lower path.root
  (place value path.steps (table.get? key)).map fun value => table.put key value

end Path

end ProxyTunnel
