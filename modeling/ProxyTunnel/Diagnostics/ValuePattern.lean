import ProxyTunnel.Diagnostics.ValuePattern.Bracket
import ProxyTunnel.Text.Decimal
import ProxyTunnel.Text.Number

/-!
Patterns for the values of fields: regular expressions, of which only the form counts here.
`isWellFormed` says whether a text is one. A pattern ends where its directive closes its braces, so
a count in braces never ends.
-/

set_option autoImplicit false

namespace ProxyTunnel.ValuePattern

-- The inside of a group that is not closed yet: how deep its finished branches go, the parts of the
-- branch at its end, and the depth of the last part if that can be repeated.
structure Branches where
  finished : Option Nat := none
  parts : Row := {}
  last : Option Nat := none
deriving DecidableEq, Repr

namespace Branches

-- How deep the inside of a group goes. One branch by itself makes no level of its own.
def height (b : Branches) : Nat :=
  match b.finished with
  | none => b.parts.height
  | some depth => max depth b.parts.height + 1

def push (b : Branches) (depth : Nat) : Branches :=
  { b with parts := b.parts.push depth, last := some depth }

def pushChange (b : Branches) : Branches := { b with parts := b.parts.push 0, last := none }

def repeatLast? (b : Branches) : Option Branches :=
  b.last.map fun depth =>
    { b with parts := ⟨b.parts.count, max b.parts.depth (depth + 1)⟩, last := some (depth + 1) }

def branch (b : Branches) : Branches :=
  ⟨some (max (b.finished.getD 0) b.parts.height), {}, none⟩

end Branches

-- A reader of a pattern: its settings, the names of groups so far, the innermost group that is
-- open, and the groups around it with the settings to come back to.
structure Reader where
  mode : Mode := {}
  names : List (List Char) := []
  inner : Branches := {}
  outer : List (Branches × Mode) := []
deriving DecidableEq, Repr

def isName : List Char → Bool
  | [] => false
  | first :: rest =>
      (first == '_' || Text.isLetter first)
        && rest.all fun c => "_.[]".toList.contains c || Text.isLetterOrNumber c

namespace Reader

def push (r : Reader) (depth : Nat) : Reader := { r with inner := r.inner.push depth }

def enter (r : Reader) (mode : Mode) : Reader :=
  { r with mode, inner := {}, outer := (r.inner, r.mode) :: r.outer }

-- Closes the innermost group. The settings from before it come back.
def leave? (r : Reader) : Option Reader :=
  match r.outer with
  | [] => none
  | (around, mode) :: outer =>
      some { r with mode, inner := around.push (r.inner.height + 1), outer }

def enterNamed? (r : Reader) (text : List Char) : Option (Reader × List Char) :=
  let name := text.takeWhile (· ≠ '>')
  match text.dropWhile (· ≠ '>') with
  | [] => none
  | _ :: rest =>
      if isName name && !r.names.contains name then
        some ({ r.enter r.mode with names := name :: r.names }, rest)
      else none

-- Changes settings, for a group if a colon follows them, and else up to the end of the innermost
-- group.
def changeMode? (r : Reader) (text : List Char) : Option (Reader × List Char) :=
  let letters := text.takeWhile fun c => c ≠ ':' && c ≠ ')'
  let mode := r.mode.change true letters
  if Mode.areLetters letters then
    match text.drop letters.length with
    | ':' :: rest => some (r.enter mode, rest)
    | ')' :: rest =>
        if letters = [] then none else some ({ r with mode, inner := r.inner.pushChange }, rest)
    | _ => none
  else none

def open? (r : Reader) (text : List Char) : Option (Reader × List Char) :=
  match r.mode.skip text with
  | '?' :: 'P' :: '<' :: rest => r.enterNamed? rest
  | '?' :: '<' :: rest => r.enterNamed? rest
  | '?' :: rest => r.changeMode? rest
  | rest => some (r.enter r.mode, rest)

-- Reads what a character begins, and gives the rest of the text. A second `?` behind a repetition
-- belongs to it.
def step? (r : Reader) (c : Char) (text : List Char) : Option (Reader × List Char) :=
  match c with
  | '(' => r.open? text
  | ')' => r.leave?.map (·, text)
  | '|' => some ({ r with inner := r.inner.branch }, text)
  | '[' =>
      (Bracket.read? r.mode text.length {} [] text).map fun (depth, rest) => (r.push depth, rest)
  | '?' | '*' | '+' =>
      let rest := if text.head? = some '?' then text.drop 1 else text
      r.inner.repeatLast?.map fun inner => ({ r with inner }, rest)
  | '{' => none
  | '\\' =>
      match Escape.read? r.mode text with
      | some (.character _, rest) => if r.mode.admits then some (r.push 0, rest) else none
      | some (_, rest) => some (r.push 0, rest)
      | none => none
  | '.' => if r.mode.everyScript then some (r.push 0, text) else none
  | '^' | '$' => some (r.push 0, text)
  | _ => if r.mode.admits then some (r.push 0, text) else none

-- Reads to the end of a text, where no group may be open, and gives the depth of the pattern. Each
-- turn takes a character or more, so one more than the length of the text is fuel enough.
def run? : Nat → Reader → List Char → Option Nat
  | 0, _, _ => none
  | fuel + 1, r, text =>
      match r.mode.skip text with
      | [] => if r.outer = [] then some r.inner.height else none
      | c :: rest =>
          match r.step? c rest with
          | some (r, rest) => run? fuel r rest
          | none => none

end Reader

def depthLimit : Nat := 250

def isWellFormed (text : List Char) : Bool :=
  match Reader.run? (text.length + 1) {} text with
  | some depth => decide (depth ≤ depthLimit)
  | none => false

def isAskable (text : List Char) : Bool := Decimal.isReal text || isWellFormed text

end ProxyTunnel.ValuePattern
