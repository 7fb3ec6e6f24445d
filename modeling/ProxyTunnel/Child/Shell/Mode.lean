import ProxyTunnel.Text.Raw

/-!
Permissions of new files: nine bits, read and written in octal digits or with letters. Three bits
each are for the owner, the group and others.
-/

set_option autoImplicit false

namespace ProxyTunnel.Shell.Mode

def full : Nat := 511

def forAll (bits : Nat) : Nat := 73 * bits

-- The permissions that letters for people stand for; without a letter, all.
def people (letters : List Char) : Nat :=
  letters.foldl
    (fun mode c =>
      mode ||| match c with
        | 'u' => 448
        | 'g' => 56
        | 'o' => 7
        | _ => full)
    (if letters.isEmpty then full else 0)

-- The bits that a letter stands for. Letters for people copy what these may do now.
def bits (now : Nat) (c : Char) : Nat :=
  match c with
  | 'r' => 4
  | 'w' => 2
  | 'x' => 1
  | 'X' => if now &&& forAll 1 = 0 then 0 else 1
  | 'u' => now / 64 % 8
  | 'g' => now / 8 % 8
  | 'o' => now % 8
  | _ => 0

def change (now whose : Nat) : Nat → Nat → List Char → Option Nat
  | 0, _, _ => none
  | _, mode, [] => some mode
  | n + 1, mode, sign :: rest =>
      let letters := rest.takeWhile fun c => "rwxXsugo".toList.contains c
      let meant := forAll (letters.foldl (fun all c => all ||| bits now c) 0) &&& whose
      let rest := rest.drop letters.length
      match sign with
      | '+' => change now whose n (mode ||| meant) rest
      | '-' => change now whose n (mode &&& (full - meant)) rest
      | '=' => change now whose n ((mode &&& (full - whose)) ||| meant) rest
      | _ => none

def changed? (now : Nat) (text : String) : Option Nat :=
  let parts := Raw.splitAt ',' text
  let parts := if parts.getLast? = some "" then parts.dropLast else parts
  parts.foldl
    (fun mode part =>
      let letters := part.toList.takeWhile fun c => "ugoa".toList.contains c
      match mode, part.toList.drop letters.length with
      | some mode, sign :: rest => change now (people letters) (part.length + 1) mode (sign :: rest)
      | _, _ => none)
    (some now)

def octal? (text : String) : Option Nat :=
  if text.toList.all fun c => '0' ≤ c && c ≤ '7' then
    some (text.toList.foldl (fun n c => 8 * n + (c.toNat - 48)) 0 % (full + 1))
  else none

def inOctal (mode : Nat) : String :=
  let digit (n : Nat) : Char := Char.ofNat (48 + n % 8)
  String.ofList ['0', digit (mode / 64), digit (mode / 8), digit mode]

def inLetters (mode : Nat) : String :=
  let letters (bits : Nat) : String :=
    (if 4 ≤ bits % 8 then "r" else "") ++ (if 2 ≤ bits % 4 then "w" else "")
      ++ (if bits % 2 = 1 then "x" else "")
  "u=" ++ letters (mode / 64) ++ ",g=" ++ letters (mode / 8) ++ ",o=" ++ letters mode

end ProxyTunnel.Shell.Mode
