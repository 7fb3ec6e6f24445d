import ProxyTunnel.Child.FileCheck
import ProxyTunnel.Child.Tool.Citation

/-!
The conditions of the tool `test`. Up to four arguments are understood by their number; more are an
expression with `-a`, `-o`, `!` and parentheses.
-/

set_option autoImplicit false

namespace ProxyTunnel.Tool.Condition

abbrev Answer := Except String (Bool × List String)

def isBinary (operator : String) : Bool :=
  ["=", "==", "!=", "<", ">", "-nt", "-ot", "-ef"].contains operator
    || FileCheck.comparisons.contains operator

def looksUnary (text : String) : Bool :=
  match text.toList with
  | ['-', _] => true
  | _ => false

def number (text : String) : Except String Int :=
  match FileCheck.integer? text with
  | some n => .ok n
  | none => .error ("invalid integer " ++ cite text)

def binary (tree : FileTree) (a operator b : String) : Except String Bool :=
  match operator with
  | "=" | "==" => .ok (a = b)
  | "!=" => .ok (a ≠ b)
  | "<" => .ok (a < b)
  | ">" => .ok (b < a)
  | "-nt" => .ok ((FileCheck.nodeOf tree a true).isSome && (FileCheck.nodeOf tree b true).isNone)
  | "-ot" => .ok ((FileCheck.nodeOf tree b true).isSome && (FileCheck.nodeOf tree a true).isNone)
  | "-ef" => .ok (FileCheck.same tree a b)
  | _ => do return FileCheck.compare operator (← number a) (← number b)

def unary (tree : FileTree) : List String → Answer
  | operator :: rest =>
      match operator.toList, rest with
      | ['-', letter], operand :: rest =>
          if letter = 'z' then .ok (operand = "", rest)
          else if letter = 'n' then .ok (operand ≠ "", rest)
          else if letter = 't' then (number operand).map fun _ => (false, rest)
          else if letter = 'N' then .ok (false, rest)
          else if FileCheck.questions.contains letter then
            .ok (FileCheck.holds tree letter operand, rest)
          else .error (cite operator ++ ": unary operator expected")
      | ['-', letter], [] =>
          if "zntN".toList.contains letter || FileCheck.questions.contains letter then
            .error ("missing argument after " ++ cite operator)
          else .error (cite operator ++ ": unary operator expected")
      | _, _ => .error (cite operator ++ ": unary operator expected")
  | [] => .error "missing argument"

-- The complaint that arguments end too early; `last` is the last of all.
def beyond {α : Type} (last : String) : Except String α :=
  .error ("missing argument after " ++ cite last)

def one : List String → Answer
  | [] => .error "missing argument"
  | text :: rest => .ok (text ≠ "", rest)

def two (tree : FileTree) (last : String) : List String → Answer
  | [] => .error "missing argument"
  | first :: rest =>
      if first = "!" then (one rest).map fun (answer, rest) => (!answer, rest)
      else if looksUnary first then unary tree (first :: rest)
      else beyond last

mutual
def disjunction (tree : FileTree) (last : String) : Nat → List String → Answer
  | 0, _ => .error "expression too long"
  | n + 1, rest => do
      let (first, rest) ← conjunction tree last n rest
      match rest with
      | "-o" :: rest =>
          let (second, rest) ← disjunction tree last n rest
          return (first || second, rest)
      | rest => return (first, rest)

def conjunction (tree : FileTree) (last : String) : Nat → List String → Answer
  | 0, _ => .error "expression too long"
  | n + 1, rest => do
      let (first, rest) ← term tree last n rest
      match rest with
      | "-a" :: rest =>
          let (second, rest) ← conjunction tree last n rest
          return (first && second, rest)
      | rest => return (first, rest)

def term (tree : FileTree) (last : String) : Nat → List String → Answer
  | 0, _ => .error "expression too long"
  | _ + 1, [] => beyond last
  | n + 1, "!" :: rest => (term tree last n rest).map fun (answer, rest) => (!answer, rest)
  | n + 1, "(" :: rest => do
      let inside := (rest.takeWhile (· ≠ ")")).length
      let count := if 4 ≤ inside then rest.length else inside
      let (answer, rest) ← counted tree last n count rest
      match rest with
      | ")" :: rest => return (answer, rest)
      | [] => throw (cite ")" ++ " expected")
      | found :: _ => throw (cite ")" ++ " expected, found " ++ cite found)
  | _ + 1, a :: rest =>
      match rest with
      | operator :: b :: after =>
          if isBinary operator then (binary tree a operator b).map (·, after)
          else if looksUnary a then unary tree (a :: rest)
          else .ok (a ≠ "", rest)
      | _ => if looksUnary a then unary tree (a :: rest) else .ok (a ≠ "", rest)

def counted (tree : FileTree) (last : String) : Nat → Nat → List String → Answer
  | 0, _, _ => .error "expression too long"
  | _ + 1, 1, rest => one rest
  | _ + 1, 2, rest => two tree last rest
  | n + 1, 3, rest =>
      match rest with
      | a :: operator :: b :: after =>
          if isBinary operator then (binary tree a operator b).map (·, after)
          else if a = "!" then
            (two tree last (operator :: b :: after)).map fun (answer, rest) => (!answer, rest)
          else if a = "(" ∧ b = ")" then .ok (operator ≠ "", after)
          else if operator = "-a" ∨ operator = "-o" then disjunction tree last n rest
          else .error (cite operator ++ ": binary operator expected")
      | _ => beyond last
  | n + 1, 4, rest =>
      match rest with
      | "!" :: more =>
          (counted tree last n 3 more).map fun (answer, rest) => (!answer, rest)
      | ["(", a, b, ")"] =>
          (two tree last [a, b, ")"]).map fun (answer, _) => (answer, [])
      | _ => disjunction tree last n rest
  | n + 1, _, rest => disjunction tree last n rest
end

def status (tree : FileTree) (arguments : List String) : Except String Nat :=
  match arguments with
  | [] => .ok 1
  | _ =>
      let count := arguments.length
      match counted tree (arguments.getLastD "") (6 * count + 12) count arguments with
      | .error problem => .error problem
      | .ok (_, extra :: _) => .error ("extra argument " ++ cite extra)
      | .ok (answer, []) => .ok (if answer then 0 else 1)

end ProxyTunnel.Tool.Condition
