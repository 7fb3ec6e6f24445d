import ProxyTunnel.Child.FileCheck
import ProxyTunnel.Child.Tool.Basic

/-!
The tools that show bytes in other notations: numbers in columns, and letters that stand for six
bits.
-/

set_option autoImplicit false

namespace ProxyTunnel.Tool

namespace Dump

inductive Form where
  | characters
  | octalBytes
  | hexBytes
  | decimalBytes
  | octalWords
deriving DecidableEq, Repr

def digits (base width n : Nat) (filler : Char) : String :=
  let text := String.ofList (Nat.toDigits base n)
  String.ofList (List.replicate (width - text.length) filler) ++ text

def character (c : Char) : String :=
  let wide (text : String) : String :=
    String.ofList (List.replicate (3 - text.length) ' ') ++ text
  match c.toNat with
  | 0 => wide "\\0"
  | 7 => wide "\\a"
  | 8 => wide "\\b"
  | 9 => wide "\\t"
  | 10 => wide "\\n"
  | 11 => wide "\\v"
  | 12 => wide "\\f"
  | 13 => wide "\\r"
  | n => if 32 ≤ n ∧ n < 127 then wide (String.singleton c) else digits 8 3 n '0'

def columns (form : Form) : List Char → List String
  | [] => []
  | c :: rest =>
      match form with
      | .characters => character c :: columns form rest
      | .octalBytes => digits 8 3 c.toNat '0' :: columns form rest
      | .hexBytes => digits 16 2 c.toNat '0' :: columns form rest
      | .decimalBytes => digits 10 4 c.toNat ' ' :: columns form rest
      | .octalWords =>
          match rest with
          | d :: more => digits 8 6 (c.toNat + 256 * d.toNat) '0' :: columns form more
          | [] => [digits 8 6 c.toNat '0']

def row (form : Form) (cs : List Char) : String :=
  String.join ((columns form cs).map (" " ++ ·))

-- The rows of a text from an offset on; equal rows in a series are left out.
def rows (form : Form) (address : Nat → String) :
    Nat → Nat → Option (List Char) → Bool → List Char → List String
  | 0, offset, _, _, _ => [address offset]
  | _, offset, _, _, [] => [address offset]
  | n + 1, offset, last, marked, cs =>
      let now := cs.take 16
      let rest := cs.drop 16
      if last = some now ∧ now.length = 16 ∧ !rest.isEmpty then
        (if marked then [] else ["*"]) ++ rows form address n (offset + 16) last true rest
      else
        (address offset ++ row form now)
          :: rows form address n (offset + now.length) (some now) false rest

def letters : List Char :=
  "ABCDEFGHIJKLMNOPQRSTUVWXYZabcdefghijklmnopqrstuvwxyz0123456789+/".toList

def letter (n : Nat) : Char := letters.getD (n % 64) '='

def encode : List Char → List Char
  | a :: b :: c :: rest =>
      let n := 65536 * a.toNat + 256 * b.toNat + c.toNat
      letter (n / 262144) :: letter (n / 4096) :: letter (n / 64) :: letter n :: encode rest
  | [a, b] =>
      let n := 65536 * a.toNat + 256 * b.toNat
      [letter (n / 262144), letter (n / 4096), letter (n / 64), '=']
  | [a] =>
      let n := 65536 * a.toNat
      [letter (n / 262144), letter (n / 4096), '=', '=']
  | [] => []

def decode : List Char → List Char × Bool
  | a :: b :: c :: d :: rest =>
      let value (c : Char) : Option Nat :=
        let n := (letters.takeWhile (· ≠ c)).length
        if n < 64 then some n else none
      let byte (n : Nat) : Char := Char.ofNat (n % 256)
      match value a, value b, value c, value d with
      | some p, some q, some r, some s =>
          let n := 262144 * p + 4096 * q + 64 * r + s
          let (more, all) := decode rest
          (byte (n / 65536) :: byte (n / 256) :: byte n :: more, all)
      | some p, some q, some r, none =>
          let n := 262144 * p + 4096 * q + 64 * r
          ([byte (n / 65536), byte (n / 256)], d = '=' && rest.isEmpty)
      | some p, some q, none, none =>
          let n := 262144 * p + 4096 * q
          ([byte (n / 65536)], c = '=' && d = '=' && rest.isEmpty)
      | _, _, _, _ => ([], false)
  | [] => ([], true)
  | _ => ([], false)

def wrapped (width : Nat) : Nat → List Char → String
  | 0, _ | _, [] => ""
  | n + 1, cs => String.ofList (cs.take width) ++ "\n" ++ wrapped width n (cs.drop width)

end Dump

def od (r : Request) : Act PUnit := do
  let o ← Act.options r (Options.form "cbvx" "AtNjw" [("address-radix", 'A'), ("format", 't')]) 1
  let form : Dump.Form :=
    match o.given.reverse.findSome? fun (c, value) =>
        match c, value with
        | 'c', _ | 't', "c" => some Dump.Form.characters
        | 'b', _ | 't', "o1" => some .octalBytes
        | 't', "x1" => some .hexBytes
        | 't', "u1" => some .decimalBytes
        | _, _ => none with
    | some form => form
    | none => .octalWords
  let address (n : Nat) : String :=
    match o.value? 'A' with
    | some "n" => ""
    | some "d" => Dump.digits 10 7 n '0'
    | some "x" => Dump.digits 16 6 n '0'
    | _ => Dump.digits 8 7 n '0'
  let found ← Act.readFiles r o.operands Act.unreadable
  let tree ← Act.tree
  if found.isEmpty && !o.operands.any (FileCheck.holds tree 'd') then return ()
  let cs := (String.join (found.map (·.2))).toList
  let cs := (((o.value? 'N').bind count?).map fun n => cs.take n).getD cs
  let rows := Dump.rows form address (cs.length + 1) 0 none false cs
  let rows := if o.value? 'A' = some "n" then rows.dropLast else rows
  Act.print (String.join (rows.map (· ++ "\n")))

def base64 (r : Request) : Act PUnit := do
  let o ← Act.options r (Options.form "di" "w" [("decode", 'd'), ("wrap", 'w')]) 1
  let wording (path : String) (fault : PathFault) : String :=
    if fault = .isDirectory then "read error: " ++ fault.text else Act.unreadable path fault
  let found ← Act.readFiles r (o.operands.take 1) wording
  let cs := (String.join (found.map (·.2))).toList
  if o.has 'd' then
    let (decoded, all) := Dump.decode (cs.filter (· ≠ '\n'))
    Act.print (String.ofList decoded)
    if !all then Act.fail r "invalid input" 1
  else
    let width := ((o.value? 'w').bind count?).getD 76
    let encoded := Dump.encode cs
    if width = 0 then Act.print (String.ofList encoded)
    else Act.print (Dump.wrapped width (encoded.length + 1) encoded)

def cmp (r : Request) : Act PUnit := do
  let o ← Act.options r (Options.form "sbl" "n" [("silent", 's'), ("quiet", 's')]) 2
  match o.operands with
  | [] => Act.misuse r "missing operand after 'cmp'" 2
  | first :: rest =>
      let second := rest.headD "-"
      let load (path : String) : Act String := do
        match ← Act.readFile r path with
        | .ok text => return text
        | .error fault => Act.fail r (path ++ ": " ++ fault.text) 2
      let a ← load first
      let b ← load second
      if a = b then return ()
      let same := ((a.toList.zip b.toList).takeWhile fun (x, y) => x == y).length
      let lines := ((a.toList.take same).filter (· = '\n')).length
      if !o.has 's' then
        if same = a.length ∨ same = b.length then
          let short := if same = a.length then first else second
          let place := if same = 0 then " which is empty"
            else s!" after byte {same}, " ++ (if (a.toList.take same).getLast? = some '\n'
              then s!"line {lines}" else s!"in line {lines + 1}")
          Act.mutter (r.name ++ ": EOF on " ++ short ++ place ++ "\n")
        else
          Act.print s!"{first} {second} differ: byte {same + 1}, line {lines + 1}\n"
      Act.setStatus 1

end ProxyTunnel.Tool
