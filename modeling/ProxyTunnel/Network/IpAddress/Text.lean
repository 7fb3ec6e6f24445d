import ProxyTunnel.Network.IpAddress

/-!
The texts of internet addresses. Version 4 is written as four decimal bytes and read with one to
four parts in decimal, octal or hexadecimal, of which the last fills all bytes that remain. Version
6 is eight hexadecimal groups, where `::` stands for a row of zeros and the last two groups may be
written as a version 4 address.
-/

set_option autoImplicit false

namespace ProxyTunnel.IpAddress

def dotted (value : Nat) : String :=
  ".".intercalate ((bytesOfNat 4 value).map fun b => toString b.toNat)

def groups (value : BitVec 128) : List Nat :=
  (List.range 8).map fun i => value.toNat / Nat.pow 65536 (7 - i) % 65536

def leadingZeros (gs : List Nat) : Nat := (gs.takeWhile (· = 0)).length

-- Start and length of the longest row of zeros, the first of equal ones; a single zero makes no
-- row.
def longestZeros (gs : List Nat) : Option (Nat × Nat) :=
  let best := (List.range gs.length).foldl
    (fun best start =>
      let length := leadingZeros (gs.drop start)
      if best.2 < length then (start, length) else best)
    (0, 1)
  if best.2 < 2 then none else some best

def hexGroup (n : Nat) : String := String.ofList (Nat.toDigits 16 n)

def hexGroups (gs : List Nat) : String := ":".intercalate (gs.map hexGroup)

-- The text of a version 6 address. One that stands for a version 4 address ends in its text.
def text6 (value : BitVec 128) : String :=
  let gs := groups value
  match longestZeros gs with
  | none => hexGroups gs
  | some (start, length) =>
      let low := dotted (value.toNat % Nat.pow 2 32)
      if start = 0 ∧ length = 6 then "::" ++ low
      else if start = 0 ∧ length = 5 ∧ gs.getD 5 0 = 65535 then "::ffff:" ++ low
      else hexGroups (gs.take start) ++ "::" ++ hexGroups (gs.drop (start + length))

-- The name and the number of the one link whose name is known, which leads back to this machine.
def knownLink : String := "lo"

def knownScope : BitVec 32 := 1#32

-- Whether an address is meant on one link, judged by its first two bytes.
def isOnLink (a : IpAddress) : Bool :=
  match a.bytes with
  | 0xFE :: second :: _ => second / 64 = 2
  | 0xFF :: second :: _ => second % 16 = 2
  | _ => false

def isOnLinkOrNode (a : IpAddress) : Bool :=
  a.isOnLink ||
    match a.bytes with
    | 0xFF :: second :: _ => second % 16 = 1
    | _ => false

-- The text of an address. A scope follows after a percent sign, by the name of the link where that
-- is known.
def text (a : IpAddress) : String :=
  match a with
  | v4 value => dotted value.toNat
  | v6 value scope =>
      if scope = 0 then text6 value
      else if a.isOnLink && scope = knownScope then text6 value ++ "%" ++ knownLink
      else text6 value ++ "%" ++ toString scope.toNat

def digit? (c : Char) : Option Nat :=
  if c.isDigit then some (c.toNat - 48)
  else if 'a' ≤ c ∧ c ≤ 'f' then some (c.toNat - 87)
  else if 'A' ≤ c ∧ c ≤ 'F' then some (c.toNat - 55)
  else none

def number? (base : Nat) (digits : List Char) : Option Nat :=
  if digits = [] then none
  else
    digits.foldl
      (fun n c =>
        match n, digit? c with
        | some n, some d => if d < base then some (base * n + d) else none
        | _, _ => none)
      (some 0)

-- A number in hexadecimal after `0x`, in octal after `0`, and in decimal else.
def anyNumber? : List Char → Option Nat
  | '0' :: 'x' :: digits | '0' :: 'X' :: digits => number? 16 digits
  | '0' :: digits => number? 8 ('0' :: digits)
  | digits => number? 10 digits

-- The value of parts of which all but the last are bytes and the last fills what remains.
def ofParts? : List Nat → Nat → Option Nat
  | [], _ => none
  | [last], size => if last < Nat.pow 256 size then some last else none
  | part :: rest, size =>
      match size with
      | 0 => none
      | size + 1 =>
          if part < 256 then (ofParts? rest size).map (part * Nat.pow 256 size + ·) else none

def read4? (text : String) : Option (BitVec 32) :=
  let parts := text.splitOn "."
  if parts.length ≤ 4 then
    ((parts.mapM fun part => anyNumber? part.toList).bind (ofParts? · 4)).map (BitVec.ofNat 32)
  else none

def plainByte? (digits : List Char) : Option Nat :=
  match digits with
  | '0' :: _ :: _ => none
  | _ => (number? 10 digits).filter (· < 256)

def readDotted? (text : String) : Option Nat :=
  match (text.splitOn ".").mapM fun part => plainByte? part.toList with
  | some [a, b, c, d] => some (natOfBytes ([a, b, c, d].map UInt8.ofNat))
  | _ => none

def group? (digits : List Char) : Option Nat :=
  if digits.length ≤ 4 then number? 16 digits else none

-- Groups between colons; the last two may be dotted where that is allowed.
def groupsOf? (dottedEnd : Bool) : List String → Option (List Nat)
  | [] => some []
  | [last] =>
      match group? last.toList, dottedEnd with
      | some g, _ => some [g]
      | none, true => (readDotted? last).map fun n => [n / 65536, n % 65536]
      | none, false => none
  | part :: rest =>
      match group? part.toList, groupsOf? dottedEnd rest with
      | some g, some gs => some (g :: gs)
      | _, _ => none

def readGroups? (dottedEnd : Bool) (text : String) : Option (List Nat) :=
  if text = "" then some [] else groupsOf? dottedEnd (text.splitOn ":")

-- Reads a version 6 address. The double colon stands for at least one group.
def read6? (text : String) : Option (BitVec 128) :=
  let value (gs : List Nat) : BitVec 128 :=
    BitVec.ofNat 128 (gs.foldl (fun n g => 65536 * n + g) 0)
  match text.splitOn "::" with
  | [whole] => ((readGroups? true whole).filter (·.length = 8)).map value
  | [front, back] =>
      match readGroups? false front, readGroups? true back with
      | some front, some back =>
          let known := front.length + back.length
          if known < 8 then some (value (front ++ List.replicate (8 - known) 0 ++ back)) else none
      | _, _ => none
  | _ => none

-- The scope that a text names for an address: the name of a link, for an address that is meant on
-- one, or a decimal number of 32 bits.
def scope? (a : IpAddress) (text : String) : Option (BitVec 32) :=
  if a.isOnLinkOrNode && text = knownLink then some knownScope
  else ((number? 10 text.toList).filter (· < Nat.pow 2 32)).map (BitVec.ofNat 32)

def read? (text : String) : Option IpAddress :=
  match read4? text with
  | some value => some (.v4 value)
  | none => (read6? text).map (.v6 · 0)

-- A text before its first percent sign, and the text behind it if there is one.
def splitScope (text : String) : String × Option String :=
  let front := text.toList.takeWhile (· ≠ '%')
  match text.toList.drop front.length with
  | [] => (text, none)
  | _ :: scope => (String.ofList front, some (String.ofList scope))

end ProxyTunnel.IpAddress
