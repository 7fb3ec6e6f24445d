import ProxyTunnel.Child.FileCheck
import ProxyTunnel.Child.Tool.Regex

/-!
The expressions of the tool `expr`: every argument is an operator or an operand, and operands are
numbers or texts.
-/

set_option autoImplicit false

namespace ProxyTunnel.Tool.Expression

inductive Problem where
  | missingAfter (text : String)
  | unexpected (text : String)
  | expectedAfter (wanted text : String)
  | notInteger
  | divisionByZero
  | missing
  | badPattern
deriving DecidableEq, Repr

def Problem.text : Problem → String
  | missingAfter text => "syntax error: missing argument after '" ++ text ++ "'"
  | unexpected text => "syntax error: unexpected argument '" ++ text ++ "'"
  | expectedAfter wanted text =>
      "syntax error: expecting '" ++ wanted ++ "' after '" ++ text ++ "'"
  | notInteger => "non-integer argument"
  | divisionByZero => "division by zero"
  | missing => "missing operand"
  | badPattern => "Invalid regular expression"

def Problem.status (_ : Problem) : Nat := 2

structure Cursor where
  passed : List String
  rest : List String

def Cursor.step (k : Cursor) : Cursor :=
  match k.rest with
  | [] => k
  | a :: rest => ⟨a :: k.passed, rest⟩

def Cursor.last (k : Cursor) : String := k.passed.headD ""

abbrev Answer := Except Problem (String × Cursor)

def integer? (text : String) : Option Int :=
  match text.toList with
  | c :: _ => if FileCheck.isBlank c || c == '+' then none else
      if (text.toList.getLast?.map FileCheck.isBlank).getD false then none
      else FileCheck.integer? text
  | [] => none

def isNull (text : String) : Bool :=
  text == "" || (match text.toList with
    | '-' :: cs => cs ≠ [] && cs.all (· == '0')
    | cs => cs.all (· == '0'))

def truth (b : Bool) : String := if b then "1" else "0"

def matched (text pattern : String) : Except Problem String :=
  match Regex.read? false pattern with
  | none => .error .badPattern
  | some regex =>
      let hasGroup := ((pattern.splitOn "\\(").length > 1 : Bool)
      match Regex.longestAt false regex ⟨[], text.toList, []⟩ with
      | none => .ok (if hasGroup then "" else "0")
      | some k =>
          if hasGroup then .ok (String.ofList ((k.groups.lookup 1).getD []))
          else .ok (toString (text.length - k.rest.length))

def compare (operator a b : String) : Bool :=
  match integer? a, integer? b with
  | some x, some y =>
      match operator with
      | "<" => x < y
      | "<=" => x ≤ y
      | "=" | "==" => x = y
      | "!=" => x ≠ y
      | ">=" => y ≤ x
      | _ => y < x
  | _, _ =>
      match operator with
      | "<" => a < b
      | "<=" => a ≤ b
      | "=" | "==" => a = b
      | "!=" => a ≠ b
      | ">=" => b ≤ a
      | _ => b < a

def calculate (operator a b : String) : Except Problem String :=
  match integer? a, integer? b with
  | some x, some y =>
      match operator with
      | "+" => .ok (toString (x + y))
      | "-" => .ok (toString (x - y))
      | "*" => .ok (toString (x * y))
      | "/" => if y = 0 then .error .divisionByZero else .ok (toString (x.tdiv y))
      | _ => if y = 0 then .error .divisionByZero else .ok (toString (x.tmod y))
  | _, _ => .error .notInteger

-- The operators of each rank; those of a higher rank bind more tightly.
def ranks : List (List String) :=
  [["|"], ["&"], ["<", "<=", "=", "==", "!=", ">=", ">"], ["+", "-"], ["*", "/", "%"], [":"]]

def apply (operator a b : String) : Except Problem String :=
  match operator with
  | "|" => .ok (if !isNull a then a else if !isNull b then b else "0")
  | "&" => .ok (if isNull a || isNull b then "0" else a)
  | ":" => matched a b
  | "+" | "-" | "*" | "/" | "%" => calculate operator a b
  | _ => .ok (truth (compare operator a b))

def part (text first length : String) : String :=
  match integer? first, integer? length with
  | some first, some length =>
      if first ≤ 0 ∨ length ≤ 0 then ""
      else String.ofList ((text.toList.drop (first.toNat - 1)).take length.toNat)
  | _, _ => ""

mutual
def ofRank : Nat → Nat → Cursor → Answer
  | 0, _, _ => .error .missing
  | n + 1, rank, k => do
      match ranks[rank]? with
      | none => primary n k
      | some operators =>
          let (a, k) ← ofRank n (rank + 1) k
          continued n rank operators a k

def continued : Nat → Nat → List String → String → Cursor → Answer
  | 0, _, _, _, _ => .error .missing
  | n + 1, rank, operators, a, k =>
      match k.rest with
      | operator :: _ =>
          if operators.contains operator then do
            let (b, k) ← ofRank n (rank + 1) k.step
            continued n rank operators (← apply operator a b) k
          else .ok (a, k)
      | [] => .ok (a, k)

def primary : Nat → Cursor → Answer
  | 0, _ => .error .missing
  | n + 1, k =>
      match k.rest with
      | [] => .error (.missingAfter k.last)
      | "(" :: _ => do
          let (a, k) ← ofRank n 0 k.step
          match k.rest with
          | ")" :: _ => return (a, k.step)
          | [] => throw (.expectedAfter ")" k.last)
          | found :: _ => throw (.unexpected found)
      | ")" :: _ => .error (.unexpected ")")
      | "+" :: _ :: _ =>
          let k := k.step
          .ok (k.rest.headD "", k.step)
      | "length" :: _ => do
          let (a, k) ← primary n k.step
          return (toString a.length, k)
      | "match" :: _ => do
          let (a, k) ← primary n k.step
          let (b, k) ← primary n k
          return (← matched a b, k)
      | "index" :: _ => do
          let (a, k) ← primary n k.step
          let (b, k) ← primary n k
          let before := a.toList.takeWhile fun c => !b.toList.contains c
          return (if before.length = a.length then "0" else toString (before.length + 1), k)
      | "substr" :: _ => do
          let (a, k) ← primary n k.step
          let (b, k) ← primary n k
          let (c, k) ← primary n k
          return (part a b c, k)
      | a :: _ => .ok (a, k.step)
end

def eval (arguments : List String) : Except Problem String :=
  match arguments with
  | [] => .error .missing
  | _ => do
      let (a, k) ← ofRank (16 * arguments.length + 16) 0 ⟨[], arguments⟩
      match k.rest with
      | [] => return a
      | found :: _ => throw (.unexpected found)

end ProxyTunnel.Tool.Expression
