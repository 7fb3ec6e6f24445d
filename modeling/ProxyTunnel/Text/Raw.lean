import ProxyTunnel.Text.Utf8

/-!
Bytes as a text: every byte is the character of that number. In such a text a position is a byte,
and `ofBytes` and `toBytes` are inverse to each other on bytes.
-/

set_option autoImplicit false

namespace ProxyTunnel.Raw

def chars (bytes : Bytes) : List Char := bytes.map fun b => Char.ofNat b.toNat

def ofBytes (bytes : Bytes) : String := String.ofList (chars bytes)

def bytes (cs : List Char) : Bytes := cs.map fun c => UInt8.ofNat c.toNat

def toBytes (text : String) : Bytes := bytes text.toList

def ofText (text : String) : String := ofBytes (Utf8.encode text)

def splitAt (separator : Char) (text : String) : List String :=
  let (last, parts) := text.toList.foldr
    (fun c (part, parts) =>
      if c = separator then ([], String.ofList part :: parts) else (c :: part, parts))
    (([] : List Char), ([] : List String))
  String.ofList last :: parts

-- The lines of a text without their line feeds; nothing follows the last line feed.
def lines (text : String) : List String :=
  match (splitAt '\n' text).reverse with
  | "" :: rest => rest.reverse
  | rest => rest.reverse

def begins (text start : String) : Bool := start.toList.isPrefixOf text.toList

def drop (text : String) (n : Nat) : String := String.ofList (text.toList.drop n)

def take (text : String) (n : Nat) : String := String.ofList (text.toList.take n)

end ProxyTunnel.Raw
