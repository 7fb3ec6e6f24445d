import ProxyTunnel.Text.Printable
import ProxyTunnel.Text.Utf8

/-!
Quoted forms for diagnostics. Texts, file paths and host names stand between double quotes; what
cannot be shown is escaped, and bytes that spell no character are written in hexadecimal.
-/

set_option autoImplicit false

namespace ProxyTunnel.Text

def hex (n : Nat) : String := String.ofList (Nat.toDigits 16 n)

def hexByte (b : UInt8) : String :=
  String.ofList [(b.toNat / 16).digitChar, (b.toNat % 16).digitChar]

-- A character inside quotes: the usual short escapes, a numeric escape for what does not show, and
-- otherwise the character itself.
def escape (c : Char) : String :=
  if c = '"' then "\\\""
  else if c = '\\' then "\\\\"
  else if c = '\n' then "\\n"
  else if c = '\r' then "\\r"
  else if c = '\t' then "\\t"
  else if c = '\x00' then "\\0"
  else if isPrintable c then c.toString
  else "\\u\x7b" ++ hex c.toNat ++ "\x7d"

def quote (text : String) : String := "\"" ++ String.join (text.toList.map escape) ++ "\""

def quoteAll (texts : List String) : String := "[" ++ ", ".intercalate (texts.map quote) ++ "]"

-- A file path in quotes; a byte that spells no character is `\x` and two upper-case digits.
def quotePath (path : Bytes) : String :=
  let body := (Utf8.pieces path).map fun
    | .char c => escape c
    | .broken bytes => String.join (bytes.map fun b => "\\x" ++ (hexByte b).toUpper)
  "\"" ++ String.join body ++ "\""

-- An ASCII character of a host name inside quotes: apostrophes are escaped too, and what does not
-- show is `\x` and two lower-case digits.
def escapeAscii (c : Char) : String :=
  if c = '\'' then "\\'"
  else if c = '"' ∨ c = '\\' ∨ c = '\n' ∨ c = '\r' ∨ c = '\t' ∨ isPrintable c then escape c
  else "\\x" ++ hexByte (UInt8.ofNat c.toNat)

def quoteName (name : Bytes) : String :=
  let body := (Utf8.pieces name).map fun
    | .char c => if c.toNat < 0x80 then escapeAscii c else escape c
    | .broken bytes => String.join (bytes.map fun b => "\\x" ++ hexByte b)
  "\"" ++ String.join body ++ "\""

end ProxyTunnel.Text
