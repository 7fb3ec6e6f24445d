import ProxyTunnel.FileTree
import ProxyTunnel.Text.Raw

/-!
What can be asked about files, and the numbers that are compared in conditions.
-/

set_option autoImplicit false

namespace ProxyTunnel.FileCheck

def nodeOf (tree : FileTree) (path : String) (following : Bool) : Option Node :=
  let path := Raw.toBytes path
  if following then (tree.resolve path).toOption
  else (tree.entry path).toOption.bind tree.nodeAt?

def questions : List Char := "rwxefdcbpugkshLOGS".toList

def holds (tree : FileTree) (question : Char) (path : String) : Bool :=
  match question with
  | 'h' | 'L' =>
      match nodeOf tree path false with
      | some (.link _) => true
      | _ => false
  | _ =>
      match question, nodeOf tree path true with
      | _, none => false
      | 'e', _ | 'r', _ | 'w', _ | 'O', _ | 'G', _ => true
      | 'd', some (.directory _) | 'x', some (.directory _) => true
      | 'f', some (.file ..) | 'f', some (.program _) => true
      | 's', some (.file contents _) => !contents.isEmpty
      | 's', some (.program _) | 's', some (.directory _) => true
      | 'x', some (.file _ executable) => executable
      | 'x', some (.program _) => true
      | 'c', some .device => true
      | _, _ => false

def same (tree : FileTree) (a b : String) : Bool :=
  match tree.place (Raw.toBytes a), tree.place (Raw.toBytes b) with
  | .ok p, .ok q => p == q
  | _, _ => false

def isBlank (c : Char) : Bool := c == ' ' || (9 ≤ c.toNat && c.toNat ≤ 13)

def integer? (text : String) : Option Int :=
  let cs := text.toList.dropWhile isBlank
  let (negated, cs) :=
    match cs with
    | '-' :: rest => (true, rest)
    | '+' :: rest => (false, rest)
    | rest => (false, rest)
  let digits := cs.takeWhile Char.isDigit
  if digits ≠ [] ∧ (cs.drop digits.length).all isBlank then
    let n : Nat := digits.foldl (fun n c => 10 * n + (c.toNat - 48)) 0
    some (if negated then -(n : Int) else n)
  else none

def compare (operator : String) (a b : Int) : Bool :=
  match operator with
  | "-eq" => a = b
  | "-ne" => a ≠ b
  | "-lt" => a < b
  | "-le" => a ≤ b
  | "-gt" => a > b
  | _ => a ≥ b

def comparisons : List String := ["-eq", "-ne", "-lt", "-le", "-gt", "-ge"]

end ProxyTunnel.FileCheck
