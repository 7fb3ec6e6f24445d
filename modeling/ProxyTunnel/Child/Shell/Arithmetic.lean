import ProxyTunnel.Child.Shell.Source

/-!
Arithmetic expressions on words of 64 bits, with variables, assignments and the operators of C
except those that count up and down.
-/

set_option autoImplicit false

namespace ProxyTunnel.Shell.Arithmetic

abbrev Value := BitVec 64

inductive Operator where
  | times | divide | remainder | plus | minus | shiftLeft | shiftRight
  | less | lessEqual | greater | greaterEqual | equal | notEqual
  | bitAnd | bitXor | bitOr
deriving DecidableEq, Repr

-- How tightly an operator binds; a smaller number binds more tightly.
def Operator.rank : Operator → Nat
  | times | divide | remainder => 0
  | plus | minus => 1
  | shiftLeft | shiftRight => 2
  | less | lessEqual | greater | greaterEqual => 3
  | equal | notEqual => 4
  | bitAnd => 5
  | bitXor => 6
  | bitOr => 7

inductive Expression where
  | number (value : Value)
  | name (name : String)
  | negative (e : Expression)
  | opposite (e : Expression)
  | complement (e : Expression)
  | binary (operator : Operator) (a b : Expression)
  | both (a b : Expression)
  | either (a b : Expression)
  | choice (a b c : Expression)
  | assign (name : String) (operator : Option Operator) (e : Expression)

inductive Lexeme where
  | number (value : Value)
  | name (name : String)
  | operator (operator : Operator)
  | assign (operator : Option Operator)
  | sign (text : String)
  | bad
deriving DecidableEq, Repr

def signs : List (String × Lexeme) :=
  [("<<=", .assign (some .shiftLeft)), (">>=", .assign (some .shiftRight)),
    ("<<", .operator .shiftLeft), (">>", .operator .shiftRight), ("<=", .operator .lessEqual),
    (">=", .operator .greaterEqual), ("==", .operator .equal), ("!=", .operator .notEqual),
    ("&&", .sign "&&"), ("||", .sign "||"), ("*=", .assign (some .times)),
    ("/=", .assign (some .divide)), ("%=", .assign (some .remainder)), ("+=", .assign (some .plus)),
    ("-=", .assign (some .minus)), ("&=", .assign (some .bitAnd)), ("^=", .assign (some .bitXor)),
    ("|=", .assign (some .bitOr)), ("=", .assign none), ("*", .operator .times),
    ("/", .operator .divide), ("%", .operator .remainder), ("+", .operator .plus),
    ("-", .operator .minus), ("<", .operator .less), (">", .operator .greater),
    ("&", .operator .bitAnd), ("^", .operator .bitXor), ("|", .operator .bitOr), ("!", .sign "!"),
    ("~", .sign "~"), ("?", .sign "?"), (":", .sign ":"), ("(", .sign "("), (")", .sign ")")]

def digitValue (c : Char) : Nat :=
  if c.isDigit then c.toNat - 48
  else if 'a' ≤ c ∧ c ≤ 'f' then c.toNat - 87
  else if 'A' ≤ c ∧ c ≤ 'F' then c.toNat - 55
  else 99

def digits (base : Nat) (cs : List Char) : Nat × List Char :=
  let ds := cs.takeWhile fun c => digitValue c < base
  (ds.foldl (fun n c => base * n + digitValue c) 0, cs.drop ds.length)

def readNumber : List Char → Nat × List Char
  | '0' :: x :: c :: rest =>
      if (x = 'x' ∨ x = 'X') ∧ digitValue c < 16 then digits 16 (c :: rest)
      else digits 8 ('0' :: x :: c :: rest)
  | '0' :: rest => digits 8 ('0' :: rest)
  | cs => digits 10 cs

def greatest : Nat := Nat.pow 2 63 - 1

def ofNat (n : Nat) : Value := BitVec.ofNat 64 (min n greatest)

def lexemes : Nat → List Char → List Lexeme
  | 0, _ => []
  | _ + 1, [] => []
  | n + 1, c :: rest =>
      if c = ' ' ∨ c = '\t' ∨ c = '\n' then lexemes n rest
      else if c.isDigit then
        let (value, rest) := readNumber (c :: rest)
        .number (ofNat value) :: lexemes n rest
      else if isNameStart c then
        let name := (c :: rest).takeWhile isNameChar
        .name (String.ofList name) :: lexemes n ((c :: rest).drop name.length)
      else
        match signs.find? fun (text, _) => text.toList.isPrefixOf (c :: rest) with
        | some (text, lexeme) => lexeme :: lexemes n ((c :: rest).drop text.length)
        | none => [.bad]

abbrev Parsed := Except String (Expression × List Lexeme)

mutual
def primary : Nat → List Lexeme → Parsed
  | 0, _ => .error "expecting primary"
  | _ + 1, .number value :: rest => .ok (.number value, rest)
  | _ + 1, .name name :: rest => .ok (.name name, rest)
  | n + 1, .operator .plus :: rest => primary n rest
  | n + 1, .operator .minus :: rest => (primary n rest).map fun (e, rest) => (.negative e, rest)
  | n + 1, .sign "!" :: rest => (primary n rest).map fun (e, rest) => (.opposite e, rest)
  | n + 1, .sign "~" :: rest => (primary n rest).map fun (e, rest) => (.complement e, rest)
  | n + 1, .sign "(" :: rest =>
      match assignment n rest with
      | .error problem => .error problem
      | .ok (e, .sign ")" :: rest) => .ok (e, rest)
      | .ok _ => .error "expecting ')'"
  | _ + 1, _ => .error "expecting primary"

def operations : Nat → Nat → Expression → List Lexeme → Parsed
  | 0, _, _, _ => .error "expecting primary"
  | n + 1, rank, left, .operator o :: rest =>
      if o.rank ≤ rank then
        match primary n rest with
        | .error problem => .error problem
        | .ok (right, rest) =>
            let whole :=
              if o.rank = 0 then .ok (right, rest) else operations n (o.rank - 1) right rest
            match whole with
            | .error problem => .error problem
            | .ok (right, rest) => operations n rank (.binary o left right) rest
      else .ok (left, .operator o :: rest)
  | _ + 1, _, left, rest => .ok (left, rest)

def conjunction : Nat → List Lexeme → Parsed
  | 0, _ => .error "expecting primary"
  | n + 1, rest =>
      match primary n rest with
      | .error problem => .error problem
      | .ok (first, rest) =>
          match operations n 7 first rest with
          | .error problem => .error problem
          | .ok (a, .sign "&&" :: rest) =>
              (conjunction n rest).map fun (b, rest) => (.both a b, rest)
          | .ok result => .ok result

def disjunction : Nat → List Lexeme → Parsed
  | 0, _ => .error "expecting primary"
  | n + 1, rest =>
      match conjunction n rest with
      | .ok (a, .sign "||" :: rest) =>
          (disjunction n rest).map fun (b, rest) => (.either a b, rest)
      | result => result

def choice : Nat → List Lexeme → Parsed
  | 0, _ => .error "expecting primary"
  | n + 1, rest =>
      match disjunction n rest with
      | .ok (a, .sign "?" :: rest) =>
          match assignment n rest with
          | .error problem => .error problem
          | .ok (b, .sign ":" :: rest) => (choice n rest).map fun (c, rest) => (.choice a b c, rest)
          | .ok _ => .error "expecting ':'"
      | result => result

def assignment : Nat → List Lexeme → Parsed
  | 0, _ => .error "expecting primary"
  | n + 1, .name name :: .assign operator :: rest =>
      (assignment n rest).map fun (e, rest) => (.assign name operator e, rest)
  | n + 1, rest => choice n rest
end

def parse (text : String) : Except String Expression :=
  let cs := text.toList
  let found := lexemes (cs.length + 1) cs
  match assignment (8 * found.length + 8) found with
  | .error problem => .error problem
  | .ok (e, []) => .ok e
  | .ok _ => .error "expecting EOF"

def ofBool (b : Bool) : Value := if b then 1 else 0

def apply (operator : Operator) (a b : Value) : Option Value :=
  match operator with
  | .times => some (a * b)
  | .divide => if b = 0 then none else some (a.sdiv b)
  | .remainder => if b = 0 then none else some (a.srem b)
  | .plus => some (a + b)
  | .minus => some (a - b)
  | .shiftLeft => some (a <<< (b.toNat % 64))
  | .shiftRight => some (a.sshiftRight (b.toNat % 64))
  | .less => some (ofBool (a.slt b))
  | .lessEqual => some (ofBool (a.sle b))
  | .greater => some (ofBool (b.slt a))
  | .greaterEqual => some (ofBool (b.sle a))
  | .equal => some (ofBool (a == b))
  | .notEqual => some (ofBool (a != b))
  | .bitAnd => some (a &&& b)
  | .bitXor => some (a ^^^ b)
  | .bitOr => some (a ||| b)

inductive Problem where
  | divisionByZero
  | notNumber (text : String)
deriving DecidableEq, Repr

def ofText? (text : String) : Option Value :=
  let isBlank (c : Char) : Bool := c == ' ' || (9 ≤ c.toNat && c.toNat ≤ 13)
  let cs := text.toList.dropWhile isBlank
  let (negated, cs) :=
    match cs with
    | '-' :: rest => (true, rest)
    | '+' :: rest => (false, rest)
    | rest => (false, rest)
  let (value, rest) := readNumber cs
  let signed := negated || text.toList.any (· == '+')
  let empty := !(cs.head?.map Char.isDigit).getD false
  if (rest.dropWhile isBlank).isEmpty && !(empty && signed) && value ≤ greatest + 1
      && (negated || value ≤ greatest) then
    let v := BitVec.ofNat 64 value
    some (if negated then -v else v)
  else none

abbrev Changes := List (String × String)

def lookup (get : String → String) (changes : Changes) (name : String) : Except Problem Value :=
  let text := (changes.lookup name).getD (get name)
  match ofText? text with
  | some value => .ok value
  | none => .error (.notNumber text)

def eval (get : String → String) : Expression → Changes → Except Problem (Value × Changes)
  | .number value, changes => .ok (value, changes)
  | .name name, changes => do return (← lookup get changes name, changes)
  | .negative e, changes => do
      let (value, changes) ← eval get e changes
      return (-value, changes)
  | .opposite e, changes => do
      let (value, changes) ← eval get e changes
      return (ofBool (value == 0), changes)
  | .complement e, changes => do
      let (value, changes) ← eval get e changes
      return (~~~value, changes)
  | .binary operator a b, changes => do
      let (a, changes) ← eval get a changes
      let (b, changes) ← eval get b changes
      match apply operator a b with
      | some value => return (value, changes)
      | none => throw .divisionByZero
  | .both a b, changes => do
      let (a, changes) ← eval get a changes
      if a == 0 then return (0, changes)
      else
        let (b, changes) ← eval get b changes
        return (ofBool (b != 0), changes)
  | .either a b, changes => do
      let (a, changes) ← eval get a changes
      if a != 0 then return (1, changes)
      else
        let (b, changes) ← eval get b changes
        return (ofBool (b != 0), changes)
  | .choice a b c, changes => do
      let (a, changes) ← eval get a changes
      if a != 0 then eval get b changes else eval get c changes
  | .assign name operator e, changes => do
      let (value, changes) ← eval get e changes
      match operator with
      | none => return (value, (name, toString value.toInt) :: changes)
      | some operator =>
          match apply operator (← lookup get changes name) value with
          | some value => return (value, (name, toString value.toInt) :: changes)
          | none => throw .divisionByZero

end ProxyTunnel.Shell.Arithmetic
