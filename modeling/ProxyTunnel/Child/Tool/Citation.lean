import ProxyTunnel.Text.Raw

/-!
How tools cite names and arguments in what they say: between quotes, with signs for what cannot be
seen.
-/

set_option autoImplicit false

namespace ProxyTunnel.Tool

-- The sign for a character that cannot be seen: a letter or three octal digits behind a backslash.
def controlSign (c : Char) : String :=
  let n := c.toNat
  let letter (l : Char) : String := String.ofList ['\\', l]
  match n with
  | 7 => letter 'a'
  | 8 => letter 'b'
  | 9 => letter 't'
  | 10 => letter 'n'
  | 11 => letter 'v'
  | 12 => letter 'f'
  | 13 => letter 'r'
  | _ =>
      let digit (d : Nat) : Char := Char.ofNat (48 + d % 8)
      String.ofList ['\\', digit (n / 64), digit (n / 8), digit n]

def isVisible (c : Char) : Bool := 32 ≤ c.toNat && c.toNat < 127

def cite (text : String) : String :=
  let sign (c : Char) : String :=
    if c = '\'' ∨ c = '\\' then String.ofList ['\\', c]
    else if isVisible c then String.singleton c
    else controlSign c
  "'" ++ String.join (text.toList.map sign) ++ "'"

-- Whether a name means itself without quotes in a shell and in a message, where colons part what is
-- said.
def isPlainName (name : String) : Bool :=
  let isPlain (c : Char) : Bool :=
    c.isAlphanum || "%+,-./]_@#~\x7b\x7d".toList.contains c
  match name.toList with
  | [] => false
  | c :: cs =>
      (c :: cs).all isPlain && c ≠ '#' && c ≠ '~' && !(cs.isEmpty && (c == '\x7b' || c == '\x7d'))

-- The characters of a name between single quotes, as a shell would read them back. What cannot be
-- seen stands between quotes of another kind, which are open or not.
def quotedChars (inSigns : Bool) : List Char → String
  | [] => ""
  | c :: cs =>
      if c = '\'' then "'\\''" ++ quotedChars false cs
      else if isVisible c then
        (if inSigns then "''" else "") ++ String.singleton c ++ quotedChars false cs
      else (if inSigns then "" else "'$'") ++ controlSign c ++ quotedChars true cs

def isHarmless (c : Char) : Bool := c.isAlphanum || " '%+,-./:]_".toList.contains c

def quote (name : String) : String :=
  let cs := name.toList
  let bare :=
    match cs with
    | '#' :: rest | '~' :: rest => rest
    | rest => rest
  if cs.contains '\'' && bare.all isHarmless then "\"" ++ name ++ "\""
  else "'" ++ quotedChars false cs ++ "'"

def quoteIfNeeded (name : String) : String := if isPlainName name then name else quote name

end ProxyTunnel.Tool
