import ProxyTunnel.Child.Shell.Pattern
import ProxyTunnel.FileTree

/-!
Fields: how the pieces of an expanded word are divided into fields, and how a field that is a
pattern becomes the names of files.
-/

set_option autoImplicit false

namespace ProxyTunnel.Shell

inductive Piece where
  -- A character; one that divides is a boundary if it is a separator.
  | char (c : Char) (quoted : Bool) (divides : Bool)
  -- A quoted text, which is a field even if it is empty.
  | mark
  | gap
deriving DecidableEq, Repr

namespace Piece

def ofText (text : String) (quoted divides : Bool) : List Piece :=
  let pieces := text.toList.map fun c => Piece.char c quoted divides
  if quoted then .mark :: pieces else pieces

end Piece

abbrev Field := List (Char × Bool)

namespace Field

def text (field : Field) : String := String.ofList (field.map (·.1))

def isBlankSeparator (separators : List Char) (c : Char) : Bool :=
  separators.contains c && (c == ' ' || c == '\t' || c == '\n')

-- How far the division of a word has come: the fields that are done, latest first, the field at
-- work in reverse order, and whether a row of blanks has ended one.
structure Progress where
  finished : List Field
  current : Option Field
  afterBlank : Bool

namespace Progress

def finish (p : Progress) (afterBlank : Bool) : Progress :=
  match p.current with
  | none => { p with afterBlank := p.afterBlank && afterBlank }
  | some field => ⟨field.reverse :: p.finished, none, afterBlank⟩

def step (separators : List Char) (p : Progress) (piece : Piece) : Progress :=
  match piece with
  | .mark => { p with current := some (p.current.getD []), afterBlank := false }
  | .gap => p.finish false
  | .char c quoted divides =>
      if divides && isBlankSeparator separators c then
        match p.current with
        | none => p
        | some _ => p.finish true
      else if divides && separators.contains c then
        match p.current, p.afterBlank with
        | none, true => { p with afterBlank := false }
        | none, false => ⟨[] :: p.finished, none, false⟩
        | some _, _ => p.finish false
      else { p with current := some ((c, quoted) :: p.current.getD []), afterBlank := false }

end Progress

def divide (separators : List Char) (pieces : List Piece) : List Field :=
  let p := pieces.foldl (Progress.step separators) ⟨[], none, false⟩
  (p.current.toList.map List.reverse).reverse ++ p.finished |>.reverse

def components (field : Field) : List Field :=
  field.foldr
    (fun (c, quoted) parts =>
      if c = '/' then [] :: parts
      else
        match parts with
        | [] => [[(c, quoted)]]
        | part :: rest => ((c, quoted) :: part) :: rest)
    [[]]

-- The names in a directory that a pattern accepts; a leading dot must be written.
def namesIn (tree : FileTree) (directory : String) (part : Field) : List String :=
  let path := if directory = "" then [46] else Raw.toBytes directory
  match tree.place path with
  | .error _ => []
  | .ok place =>
      let names := ((tree.entriesAt? place).map Entries.names).getD []
      let hidden := part.head?.map (·.1) == some '.'
      let pattern := Pattern.ofChars part
      let dots := if hidden then [".", ".."] else []
      (dots ++ names.map Raw.ofBytes).filter fun name =>
        (hidden || name.toList.head? != some '.') && pattern.accepts name.toList

def leadsSomewhere (tree : FileTree) (path : String) : Bool :=
  match tree.entry (Raw.toBytes path) with
  | .error _ => false
  | .ok place => (tree.nodeAt? place).isSome

def matchesFrom (tree : FileTree) (start : String) : List Field → List String
  | [] => [start]
  | part :: rest =>
      let ends := rest.isEmpty
      let slash := if ends then "" else "/"
      if Pattern.isWild part then
        (namesIn tree start part).flatMap fun name =>
          let path := start ++ name
          if ends then [path]
          else
            match tree.resolve (Raw.toBytes path) with
            | .ok (.directory _) => matchesFrom tree (path ++ slash) rest
            | _ => []
      else
        let path := start ++ text part
        if ends && part ≠ [] && !leadsSomewhere tree path then []
        else matchesFrom tree (path ++ slash) rest

-- The files that a field stands for, in the order of their names; a field that is no pattern, or
-- matches nothing, stands for itself.
def files (tree : FileTree) (field : Field) : List String :=
  if Pattern.isWild field then
    match matchesFrom tree "" (components field) with
    | [] => [text field]
    | found => found.mergeSort fun a b => decide (a ≤ b)
  else [text field]

end Field

end ProxyTunnel.Shell
