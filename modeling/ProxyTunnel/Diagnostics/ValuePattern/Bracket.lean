import ProxyTunnel.Diagnostics.ValuePattern.Mode

/-!
Sets of characters in brackets. A set lists characters, ranges, named classes and further sets, and
combines such lists by `&&`, `--` and `~~`. It may be negated in front.
-/

set_option autoImplicit false

namespace ProxyTunnel.ValuePattern

inductive Stage where
  | opening
  -- Hyphens are members here, and so is a closing bracket in front of everything else.
  | leading
  | within
deriving DecidableEq, Repr

-- A bracket that is not closed yet: how deep what stands before its last operator goes, and the
-- members since.
structure Bracket where
  stage : Stage := .opening
  operand : Option Nat := none
  members : Row := {}
deriving DecidableEq, Repr

namespace Bracket

def push (b : Bracket) (stage : Stage) (depth : Nat) : Bracket :=
  { b with stage, members := b.members.push depth }

-- How deep the inside of a bracket goes. Operators take what stands before them together.
def height (b : Bracket) : Nat :=
  match b.operand with
  | none => b.members.height
  | some depth => max depth b.members.height + 1

def operate (b : Bracket) : Bracket := ⟨.within, some b.height, {}⟩

def classNames : List String :=
  ["alnum", "alpha", "ascii", "blank", "cntrl", "digit", "graph", "lower", "print", "punct",
    "space", "upper", "word", "xdigit"]

-- Reads a named class such as `[:alpha:]` or `[:^alpha:]` behind its first bracket, and says
-- whether it is negated.
def readClass? : List Char → Option (Bool × List Char)
  | ':' :: text =>
      let negated := text.head? == some '^'
      let text := if negated then text.drop 1 else text
      match text.dropWhile (· ≠ ':') with
      | ':' :: ']' :: rest =>
          if classNames.contains (String.ofList (text.takeWhile (· ≠ ':'))) then
            some (negated, rest)
          else none
      | _ => none
  | _ => none

def admitsClass (mode : Mode) (negated : Bool) : Bool :=
  if mode.everyScript then !mode.ignoresCase else !negated

def readMember? (mode : Mode) : List Char → Option (Option Char × List Char)
  | [] => none
  | '\\' :: rest =>
      match Escape.read? mode rest with
      | some (.character c, rest) => some (some c, rest)
      | some (.anyOf, rest) => some (none, rest)
      | _ => none
  | c :: rest => some (some c, rest)

-- Whether a hyphen with a text behind it stands between the ends of a range. It does not before a
-- closing bracket, nor as half of an operator; the sign of a comment counts as a blank here.
def isRange (mode : Mode) (text : List Char) : Bool :=
  let next :=
    if mode.spaced then
      match text.dropWhile Text.isBlank with
      | '#' :: rest => rest.dropWhile Text.isBlank
      | rest => rest
    else text
  next.head? != some ']' && next.head? != some '-'

-- Reads a member or a range, of which the ends must be characters in their order, and gives the
-- rest of the text.
def readItem? (mode : Mode) (text : List Char) : Option (List Char) := do
  let (first, rest) ← readMember? mode text
  let admitted := first.all mode.admitsMember
  match mode.skip rest with
  | '-' :: more =>
      if isRange mode more then
        let (last, rest) ← readMember? mode (mode.skip more)
        match first, last with
        | some low, some high =>
            if low ≤ high && admitted && mode.admitsMember high then some rest else none
        | _, _ => none
      else if admitted then some ('-' :: more)
      else none
  | rest => if admitted then some rest else none

-- Reads to the end of the outermost bracket, and gives its depth. `outer` holds the brackets around
-- `b`. Each turn takes a character or more, so the length of the text is fuel enough.
def read? (mode : Mode) : Nat → Bracket → List Bracket → List Char → Option (Nat × List Char)
  | 0, _, _, _ => none
  | fuel + 1, b, outer, text =>
      match mode.skip text with
      | [] => none
      | c :: rest =>
          let isMember := b.stage ≠ .within ∧ (c = '-' ∨ c = ']' ∧ b.members.count = 0)
          if c = '^' ∧ b.stage = .opening then
            if mode.everyScript then read? mode fuel { b with stage := .leading } outer rest
            else none
          else if isMember then
            if mode.admitsMember c then
              read? mode fuel (b.push (if c = '-' then .leading else .within) 0) outer rest
            else none
          else if c = '[' then
            match readClass? rest with
            | some (negated, rest) =>
                if admitsClass mode negated then read? mode fuel (b.push .within 0) outer rest
                else none
            | none => read? mode fuel {} (b :: outer) rest
          else if c = ']' then
            match outer with
            | [] => some (b.height + 1, rest)
            | around :: outer => read? mode fuel (around.push .within (b.height + 1)) outer rest
          else if (c = '&' ∨ c = '-' ∨ c = '~') ∧ rest.head? = some c then
            read? mode fuel b.operate outer (rest.drop 1)
          else
            match readItem? mode (c :: rest) with
            | some rest => read? mode fuel (b.push .within 0) outer rest
            | none => none

end Bracket

end ProxyTunnel.ValuePattern
