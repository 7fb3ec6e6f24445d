import ProxyTunnel.Text.Raw

/-!
Patterns of file names and of texts: a question mark for any character, an asterisk for any text,
brackets for a set of characters. A quoted character stands for itself.
-/

set_option autoImplicit false

namespace ProxyTunnel

inductive SetItem where
  | range (low high : Char)
  | named (name : String)
deriving DecidableEq, Repr

inductive PatternPart where
  | char (c : Char)
  | anyChar
  | anyText
  | set (negated : Bool) (items : List SetItem)
deriving DecidableEq, Repr

abbrev Pattern := List PatternPart

def isInClass (name : String) (c : Char) : Bool :=
  match name with
  | "alpha" => c.isAlpha
  | "digit" => c.isDigit
  | "alnum" => c.isAlphanum
  | "upper" => c.isUpper
  | "lower" => c.isLower
  | "space" => c == ' ' || (9 ≤ c.toNat && c.toNat ≤ 13)
  | "blank" => c == ' ' || c == '\t'
  | "punct" => 33 ≤ c.toNat && c.toNat ≤ 126 && !c.isAlphanum
  | "cntrl" => c.toNat < 32 || c.toNat == 127
  | "print" => 32 ≤ c.toNat && c.toNat ≤ 126
  | "graph" => 33 ≤ c.toNat && c.toNat ≤ 126
  | "xdigit" => c.isDigit || ('a' ≤ c && c ≤ 'f') || ('A' ≤ c && c ≤ 'F')
  | _ => false

namespace SetItem

def contains (item : SetItem) (c : Char) : Bool :=
  match item with
  | range low high => low ≤ c && c ≤ high
  | named name => isInClass name c

-- Reads the items of a set up to the closing bracket, which as the first item stands for itself. A
-- character comes with whether it is quoted.
def readAll (first : Bool) (items : List SetItem) :
    List (Char × Bool) → Option (List SetItem × List (Char × Bool))
  | [] => none
  | (']', false) :: rest =>
      if first then readAll false (.range ']' ']' :: items) rest else some (items.reverse, rest)
  | ('[', false) :: (':', q) :: rest =>
      let name := rest.takeWhile fun (c, _) => c.isAlpha
      match rest.drop name.length with
      | (':', _) :: (']', _) :: after =>
          if after.length < rest.length then
            readAll false (.named (String.ofList (name.map (·.1))) :: items) after
          else none
      | _ => readAll false (.range '[' '[' :: items) ((':', q) :: rest)
  | (low, _) :: ('-', false) :: (high, q) :: rest =>
      if high = ']' ∧ !q then some ((.range '-' '-' :: .range low low :: items).reverse, rest)
      else readAll false (.range low high :: items) rest
  | (c, _) :: rest => readAll false (.range c c :: items) rest
termination_by cs => cs.length

end SetItem

namespace Pattern

def ofChars (cs : List (Char × Bool)) : Pattern :=
  go cs.length cs
where
  go : Nat → List (Char × Bool) → Pattern
    | 0, _ | _, [] => []
    | n + 1, (c, quoted) :: rest =>
        if quoted then .char c :: go n rest
        else
          match c with
          | '?' => .anyChar :: go n rest
          | '*' => .anyText :: go n rest
          | '[' =>
              let (negated, inside) :=
                match rest with
                | ('!', false) :: inside | ('^', false) :: inside => (true, inside)
                | inside => (false, inside)
              match SetItem.readAll true [] inside with
              | some (items, rest) => .set negated items :: go n rest
              | none => .char '[' :: go n rest
          | '\\' =>
              match rest with
              | (d, _) :: rest => .char d :: go n rest
              | [] => [.char '\\']
          | c => .char c :: go n rest

def fits (part : PatternPart) (c : Char) : Bool :=
  match part with
  | .char d => c == d
  | .anyChar | .anyText => true
  | .set negated items => items.any (·.contains c) != negated

def accepts : Pattern → List Char → Bool
  | [], [] => true
  | [], _ :: _ => false
  | .anyText :: rest, [] => accepts rest []
  | .anyText :: rest, c :: cs => accepts rest (c :: cs) || accepts (.anyText :: rest) cs
  | _ :: _, [] => false
  | part :: rest, c :: cs => fits part c && accepts rest cs
termination_by pattern cs => (pattern.length, cs.length)

def isWild (cs : List (Char × Bool)) : Bool :=
  cs.any fun (c, quoted) => !quoted && (c == '?' || c == '*' || c == '[')

end Pattern

end ProxyTunnel
