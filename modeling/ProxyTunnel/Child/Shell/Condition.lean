import ProxyTunnel.Child.FileCheck

/-!
The conditions of the shell's own `test`: one primary, or primaries joined by `-a` and `-o`, with
`!` and parentheses.
-/

set_option autoImplicit false

namespace ProxyTunnel.Shell.Condition

inductive Role where
  | operand
  | unary
  | binary
  | negation
  | conjunction
  | disjunction
  | opening
  | closing
  | missing
deriving DecidableEq, Repr

def roleOf (text : String) : Option Role :=
  match text.toList with
  | ['!'] => some .negation
  | ['('] => some .opening
  | [')'] => some .closing
  | ['='] | ['<'] | ['>'] | ['!', '='] => some .binary
  | ['-', 'a'] => some .conjunction
  | ['-', 'o'] => some .disjunction
  | ['-', c] =>
      if FileCheck.questions.contains c || "tzn".toList.contains c then some .unary else none
  | _ =>
      let comparesFiles := ["-nt", "-ot", "-ef"].contains text
      if FileCheck.comparisons.contains text || comparesFiles then some .binary
      else none

-- Whether an argument that looks like a unary operator must be an operand: if nothing follows, or
-- if an operator for two operands does.
def isOperand : List String → Bool
  | [] | [_] => true
  | [_, _] => false
  | _ :: next :: _ => roleOf next = some .binary

def role : List String → Role
  | [] => .missing
  | text :: rest =>
      match roleOf text with
      | none => .operand
      | some .unary => if isOperand (text :: rest) then .operand else .unary
      | some .opening => if rest.isEmpty then .operand else .opening
      | some role => role

def number (text : String) : Except String Int :=
  match FileCheck.integer? text with
  | some n =>
      if n.natAbs < Nat.pow 2 63 then .ok n else .error ("Illegal number: " ++ text)
  | none => .error ("Illegal number: " ++ text)

def unary (tree : FileTree) (operator operand : String) : Except String Bool :=
  match operator.toList with
  | ['-', 'z'] => .ok (operand = "")
  | ['-', 'n'] => .ok (operand ≠ "")
  | ['-', 't'] => (number operand).map fun _ => false
  | ['-', question] => .ok (FileCheck.holds tree question operand)
  | _ => .ok false

def binary (tree : FileTree) (a operator b : String) : Except String Bool :=
  match operator with
  | "=" => .ok (a = b)
  | "!=" => .ok (a ≠ b)
  | "<" => .ok (a < b)
  | ">" => .ok (b < a)
  | "-nt" | "-ot" => .ok false
  | "-ef" => .ok (FileCheck.same tree a b)
  | _ => do return FileCheck.compare operator (← number a) (← number b)

abbrev Answer := Except String (Bool × List String)

mutual
def disjunction (tree : FileTree) : Nat → Role → List String → Answer
  | 0, _, _ => .error "expression too long"
  | n + 1, r, rest => do
      let (first, rest) ← conjunction tree n r rest
      match role rest.tail with
      | .disjunction =>
          let rest := rest.drop 2
          let (second, rest) ← disjunction tree n (role rest) rest
          return (first || second, rest)
      | _ => return (first, rest)

def conjunction (tree : FileTree) : Nat → Role → List String → Answer
  | 0, _, _ => .error "expression too long"
  | n + 1, r, rest => do
      let (first, rest) ← negation tree n r rest
      match role rest.tail with
      | .conjunction =>
          let rest := rest.drop 2
          let (second, rest) ← conjunction tree n (role rest) rest
          return (first && second, rest)
      | _ => return (first, rest)

def negation (tree : FileTree) : Nat → Role → List String → Answer
  | 0, _, _ => .error "expression too long"
  | n + 1, .negation, rest => do
      let following := role rest.tail
      let rest := if following = .missing then rest else rest.tail
      let (answer, rest) ← negation tree n following rest
      return (!answer, rest)
  | n + 1, r, rest => primary tree n r rest

def primary (tree : FileTree) : Nat → Role → List String → Answer
  | 0, _, _ => .error "expression too long"
  | _ + 1, .missing, rest => .ok (false, rest)
  | n + 1, .opening, rest => do
      let rest := rest.tail
      match role rest with
      | .closing => return (false, rest)
      | r =>
          let (answer, rest) ← disjunction tree n r rest
          match role rest.tail with
          | .closing => return (answer, rest.tail)
          | _ => throw "closing paren expected"
  | _ + 1, .unary, operator :: operand :: rest => do
      return (← unary tree operator operand, operand :: rest)
  | _ + 1, .unary, operator :: _ => .error (operator ++ ": argument expected")
  | _ + 1, _, a :: rest =>
      match role rest, rest with
      | .binary, operator :: b :: rest => do return (← binary tree a operator b, b :: rest)
      | .binary, operator :: _ => .error (operator ++ ": argument expected")
      | _, _ => .ok (a ≠ "", a :: rest)
  | _ + 1, _, [] => .ok (false, [])
end

def whole (tree : FileTree) (r : Role) (arguments : List String) : Except String Bool := do
  let (answer, rest) ← disjunction tree (4 * arguments.length + 8) r arguments
  match rest with
  | culprit :: _ :: _ =>
      throw (if culprit = "" then "unexpected operator" else culprit ++ ": unexpected operator")
  | _ => return answer

-- Answers a condition. Up to four arguments are understood by their number.
def eval (tree : FileTree) : Nat → List String → Except String Bool
  | 0, _ => .error "expression too long"
  | _ + 1, [] => .ok false
  | n + 1, arguments =>
      let count := arguments.length
      let isPair : Bool :=
        match arguments with
        | [_, operator, _] => roleOf operator = some .binary
        | _ => false
      if isPair then whole tree .operand arguments
      else if count = 3 ∨ count = 4 then
        if arguments.head? = some "(" ∧ arguments.getLast? = some ")" then
          let inside := arguments.tail.dropLast
          whole tree (role inside) inside
        else if arguments.head? = some "!" then (eval tree n arguments.tail).map (!·)
        else whole tree (role arguments) arguments
      else whole tree (role arguments) arguments

def status (tree : FileTree) (arguments : List String) : Except String Nat :=
  (eval tree (arguments.length + 1) arguments).map fun answer => if answer then 0 else 1

end ProxyTunnel.Shell.Condition
