import ProxyTunnel.Text.Raw

/-!
Backslash escapes in texts that commands write. The shell and the tools know different ones; in all
of them an escape may end the output.
-/

set_option autoImplicit false

namespace ProxyTunnel.Escape

-- What is left of a text, and what has been made of its start. An end means that nothing is written
-- any more.
inductive Next where
  | text (text : List Char) (rest : List Char)
  | stop

def isOctal (c : Char) : Bool := '0' ≤ c && c ≤ '7'

def byteOf (base : Nat) (digits : List Char) : Char :=
  let value (c : Char) : Nat :=
    if c.isDigit then c.toNat - 48 else if 'a' ≤ c then c.toNat - 87 else c.toNat - 55
  Char.ofNat (digits.foldl (fun n c => base * n + value c) 0 % 256)

def octal (most : Nat) (cs : List Char) : Char × List Char :=
  let digits := (cs.take most).takeWhile isOctal
  (byteOf 8 digits, cs.drop digits.length)

def isHex (c : Char) : Bool := c.isDigit || ('a' ≤ c && c ≤ 'f') || ('A' ≤ c && c ≤ 'F')

def letter? (c : Char) : Option Char :=
  match c with
  | '\\' => some '\\'
  | 'a' => some (Char.ofNat 7)
  | 'b' => some (Char.ofNat 8)
  | 'f' => some (Char.ofNat 12)
  | 'n' => some '\n'
  | 'r' => some '\r'
  | 't' => some '\t'
  | 'v' => some (Char.ofNat 11)
  | _ => none

def inShellFormat (cs : List Char) : Next :=
  match cs with
  | [] => .text ['\\'] []
  | c :: rest =>
      if isOctal c then
        let (c, rest) := octal 3 cs
        .text [c] rest
      else
        match letter? c with
        | some c => .text [c] rest
        | none => .text ['\\'] cs

def inShellArgument (cs : List Char) : Next :=
  match cs with
  | 'c' :: _ => .stop
  | '0' :: d :: rest => if isOctal d then inShellFormat (d :: rest) else inShellFormat cs
  | _ => inShellFormat cs

-- An escape in hexadecimal behind its letter; without digits it is none.
def hexadecimal (most : Nat) (letter : Char) (cs : List Char) : Next :=
  let digits := (cs.take most).takeWhile isHex
  if digits = [] then .text ['\\', letter] cs
  else .text [byteOf 16 digits] (cs.drop digits.length)

def codePoint (most : Nat) (letter : Char) (cs : List Char) : Next :=
  let digits := (cs.take most).takeWhile isHex
  if digits = [] then .text ['\\', letter] cs
  else
    let value (c : Char) : Nat :=
      if c.isDigit then c.toNat - 48 else if 'a' ≤ c then c.toNat - 87 else c.toNat - 55
    let code := digits.foldl (fun n c => 16 * n + value c) 0
    .text (Raw.ofText (String.singleton (Char.ofNat code))).toList (cs.drop digits.length)

def inEcho (cs : List Char) : Next :=
  match cs with
  | [] => .text ['\\'] []
  | 'c' :: _ => .stop
  | 'e' :: rest => .text [Char.ofNat 27] rest
  | 'x' :: rest => hexadecimal 2 'x' rest
  | '0' :: rest =>
      let (c, rest) := octal 3 rest
      .text [c] rest
  | c :: rest =>
      if isOctal c then
        let (c, rest) := octal 3 cs
        .text [c] rest
      else
        match letter? c with
        | some c => .text [c] rest
        | none => .text ['\\', c] rest

def inToolFormat (cs : List Char) : Next :=
  match cs with
  | [] => .text ['\\'] []
  | 'c' :: _ => .stop
  | '"' :: rest => .text ['"'] rest
  | 'e' :: rest => .text [Char.ofNat 27] rest
  | 'x' :: rest => hexadecimal 2 'x' rest
  | 'u' :: rest => codePoint 4 'u' rest
  | 'U' :: rest => codePoint 8 'U' rest
  | c :: rest =>
      if isOctal c then
        let (c, rest) := octal 3 cs
        .text [c] rest
      else
        match letter? c with
        | some c => .text [c] rest
        | none => .text ['\\', c] rest

-- An escape in an argument of the tool `printf`; octal digits may follow a zero.
def inToolArgument (cs : List Char) : Next :=
  match cs with
  | '0' :: rest =>
      let (c, rest) := octal 3 rest
      .text [c] rest
  | _ => inToolFormat cs

def interpret (escape : List Char → Next) (text : String) : String × Bool :=
  go text.length "" text.toList
where
  go : Nat → String → List Char → String × Bool
    | 0, written, _ => (written, false)
    | _, written, [] => (written, false)
    | n + 1, written, '\\' :: rest =>
        match escape rest with
        | .stop => (written, true)
        | .text text rest => go n (written ++ String.ofList text) rest
    | n + 1, written, c :: rest => go n (written.push c) rest

end ProxyTunnel.Escape
