import ProxyTunnel.Text.Blank

/-!
The settings under which a part of a value pattern is read, and what an escape stands for under
them. Case and kinds of characters are known for ASCII only: where a setting asks for those of every
character, a pattern is refused.
-/

set_option autoImplicit false

namespace ProxyTunnel.ValuePattern

structure Mode where
  ignoresCase : Bool := false
  -- Whether sets and kinds of characters reach beyond ASCII.
  everyScript : Bool := true
  spaced : Bool := false
deriving DecidableEq, Repr

-- A text without the blanks and comments at its front; a comment goes from `#` to the end of its
-- line.
def dropBlanks (inComment : Bool) : List Char → List Char
  | [] => []
  | c :: rest =>
      if inComment then dropBlanks (c != '\n') rest
      else if c = '#' then dropBlanks true rest
      else if Text.isBlank c then dropBlanks false rest
      else c :: rest

namespace Mode

def skip (mode : Mode) (text : List Char) : List Char :=
  if mode.spaced then dropBlanks false text else text

def letters : List Char := "imsUuRx-".toList

-- Turns the setting of a letter on or off. The other letters say what a pattern matches.
def turn (mode : Mode) (on : Bool) (letter : Char) : Mode :=
  match letter with
  | 'i' => { mode with ignoresCase := on }
  | 'u' => { mode with everyScript := on }
  | 'x' => { mode with spaced := on }
  | _ => mode

def change (mode : Mode) (on : Bool) : List Char → Mode
  | [] => mode
  | c :: rest => if c = '-' then mode.change false rest else (mode.turn on c).change on rest

def areLetters (text : List Char) : Bool :=
  text.all letters.contains && decide text.Nodup && text.getLast? != some '-'

def admits (mode : Mode) : Bool := !(mode.everyScript && mode.ignoresCase)

def admitsMember (mode : Mode) (c : Char) : Bool :=
  if mode.everyScript then !mode.ignoresCase else decide (c.toNat < 0x80)

end Mode

inductive Escape where
  | character (c : Char)
  | anyOf
  | place
deriving DecidableEq, Repr

namespace Escape

def digit? (c : Char) : Option Nat :=
  let n := c.toNat
  if c.isDigit then some (n - '0'.toNat)
  else if 'a' ≤ c ∧ c ≤ 'f' then some (n - 'a'.toNat + 10)
  else if 'A' ≤ c ∧ c ≤ 'F' then some (n - 'A'.toNat + 10)
  else none

def readDigits (mode : Mode) : Nat → Nat → List Char → Option (Nat × List Char)
  | 0, value, text => some (value, text)
  | count + 1, value, text =>
      match mode.skip text with
      | [] => none
      | c :: rest =>
          match digit? c with
          | some d => readDigits mode count (16 * value + d) rest
          | none => none

def readCode (mode : Mode) (count : Nat) (text : List Char) : Option (Char × List Char) :=
  match readDigits mode count 0 text with
  | some (code, rest) => if code.isValidChar then some (Char.ofNat code, rest) else none
  | none => none

-- Reads what follows a backslash. Two digits give a byte where scripts do not count, which must be
-- an ASCII character then.
def read? (mode : Mode) : List Char → Option (Escape × List Char)
  | [] => none
  | c :: rest =>
      match c with
      | 'x' =>
          match readCode mode 2 rest with
          | some (code, rest) =>
              if mode.everyScript || decide (code.toNat < 0x80) then some (.character code, rest)
              else none
          | none => none
      | 'u' => (readCode mode 4 rest).map fun (code, rest) => (.character code, rest)
      | 'U' => (readCode mode 8 rest).map fun (code, rest) => (.character code, rest)
      | 'd' | 's' | 'w' => if mode.everyScript then none else some (.anyOf, rest)
      | 'a' => some (.character '\x07', rest)
      | 't' => some (.character '\t', rest)
      | 'n' => some (.character '\n', rest)
      | 'v' => some (.character '\x0b', rest)
      | 'f' => some (.character '\x0c', rest)
      | 'r' => some (.character '\r', rest)
      | 'A' | 'z' => some (.place, rest)
      | 'b' | 'B' | '<' | '>' => if mode.everyScript then none else some (.place, rest)
      | _ => if c.toNat < 0x80 && !c.isAlphanum then some (.character c, rest) else none

end Escape

structure Row where
  count : Nat := 0
  depth : Nat := 0
deriving DecidableEq, Repr

namespace Row

def push (row : Row) (depth : Nat) : Row := ⟨row.count + 1, max row.depth depth⟩

def height (row : Row) : Nat := if row.count < 2 then row.depth else row.depth + 1

end Row

end ProxyTunnel.ValuePattern
