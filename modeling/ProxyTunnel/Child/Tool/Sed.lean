import ProxyTunnel.Child.Tool.Basic
import ProxyTunnel.Child.Tool.Regex

/-!
The stream editor: commands with addresses are applied to every line of the input.
-/

set_option autoImplicit false

namespace ProxyTunnel.Tool.Sed

inductive Address where
  | line (n : Nat)
  | last
  | matching (regex : Regex)

inductive Action where
  -- Replaces matches by a text with references: all of them, or the one of a number and perhaps
  -- those behind it; the line may be printed if there was one.
  | substitute (regex : Regex) (replacement : List Char) (ignoreCase : Bool) (number : Nat)
      (all printed : Bool)
  | print
  | delete
  | quit (status : Nat) (printed : Bool)
  | number
  | translate (source target : List Char)
  | append (text : String)
  | insert (text : String)
  | change (text : String)

structure Step where
  start : Option Address
  stop : Option Address
  negated : Bool
  action : Action

-- The part of a text up to a separator that no backslash precedes. A separator behind a backslash
-- loses it, and a line feed may be written as a letter.
def upTo (separator : Char) : List Char → List Char → Option (List Char × List Char)
  | _, [] => none
  | found, '\\' :: c :: rest =>
      if c = separator then upTo separator (c :: found) rest
      else upTo separator (c :: '\\' :: found) rest
  | found, c :: rest =>
      if c = separator then some (found.reverse, rest) else upTo separator (c :: found) rest

def isBlank (c : Char) : Bool := c == ' ' || c == '\t'

def skipBlanks (cs : List Char) : List Char := cs.dropWhile isBlank

def digits (cs : List Char) : Nat × List Char :=
  let ds := cs.takeWhile Char.isDigit
  (ds.foldl (fun n c => 10 * n + (c.toNat - 48)) 0, cs.drop ds.length)

def readAddress (extended : Bool) (cs : List Char) : Option (Option Address × List Char) :=
  match cs with
  | '$' :: rest => some (some .last, rest)
  | '/' :: rest => do
      let (text, rest) ← upTo '/' [] rest
      let regex ← Regex.read? extended (String.ofList text)
      return (some (.matching regex), rest)
  | c :: _ =>
      if c.isDigit then
        let (n, rest) := digits cs
        some (some (.line n), rest)
      else some (none, cs)
  | [] => some (none, cs)

structure Flags where
  number : Nat
  all : Bool
  printed : Bool
  ignoreCase : Bool

def readFlags : Nat → Flags → List Char → Flags × List Char
  | 0, f, cs => (f, cs)
  | n + 1, f, cs =>
      match cs with
      | 'g' :: rest => readFlags n { f with all := true } rest
      | 'p' :: rest => readFlags n { f with printed := true } rest
      | 'i' :: rest | 'I' :: rest => readFlags n { f with ignoreCase := true } rest
      | c :: _ =>
          if c.isDigit then
            let (number, rest) := digits cs
            readFlags n { f with number } rest
          else (f, cs)
      | [] => (f, cs)

def readText (cs : List Char) : String × List Char :=
  let cs :=
    match skipBlanks cs with
    | '\\' :: '\n' :: rest => rest
    | '\\' :: rest => rest
    | rest => rest
  let text := cs.takeWhile (· ≠ '\n')
  (String.ofList text ++ "\n", cs.drop text.length)

def readAction (extended : Bool) (cs : List Char) : Option (Action × List Char) :=
  match cs with
  | 's' :: separator :: rest => do
      let (pattern, rest) ← upTo separator [] rest
      let (replacement, rest) ← upTo separator [] rest
      let (f, rest) := readFlags (rest.length + 1) ⟨1, false, false, false⟩ rest
      let regex ← Regex.read? extended (String.ofList pattern)
      return (.substitute regex replacement f.ignoreCase f.number f.all f.printed, rest)
  | 'y' :: separator :: rest => do
      let (source, rest) ← upTo separator [] rest
      let (target, rest) ← upTo separator [] rest
      if source.length = target.length then return (.translate source target, rest) else none
  | 'p' :: rest => some (.print, rest)
  | 'd' :: rest => some (.delete, rest)
  | '=' :: rest => some (.number, rest)
  | 'q' :: rest =>
      let (status, rest) := digits (skipBlanks rest)
      some (.quit status true, rest)
  | 'Q' :: rest =>
      let (status, rest) := digits (skipBlanks rest)
      some (.quit status false, rest)
  | 'a' :: rest => some ((readText rest).map .append id)
  | 'i' :: rest => some ((readText rest).map .insert id)
  | 'c' :: rest => some ((readText rest).map .change id)
  | _ => none

def readStep (extended : Bool) (cs : List Char) : Option (Step × List Char) := do
  let (start, rest) ← readAddress extended cs
  let (stop, rest) ←
    match start, skipBlanks rest with
    | some _, ',' :: rest => readAddress extended (skipBlanks rest)
    | _, rest => some (none, rest)
  let (negated, rest) :=
    match skipBlanks rest with
    | '!' :: rest => (true, skipBlanks rest)
    | rest => (false, rest)
  let (action, rest) ← readAction extended rest
  return (⟨start, stop, negated, action⟩, rest)

def readSteps (extended : Bool) : Nat → List Char → Option (List Step)
  | 0, _ => some []
  | n + 1, cs =>
      match cs.dropWhile fun c => isBlank c || c == ';' || c == '\n' with
      | [] => some []
      | '#' :: rest => readSteps extended n (rest.dropWhile (· ≠ '\n'))
      | cs => do
          let (step, rest) ← readStep extended cs
          match skipBlanks rest with
          | [] | ';' :: _ | '\n' :: _ | '#' :: _ => pure ()
          | _ => none
          return step :: (← readSteps extended n rest)

def Address.means (a : Address) (n : Nat) (isLast : Bool) (line : String) : Bool :=
  match a with
  | .line m => n = m
  | .last => isLast
  | .matching regex => (Regex.search false regex line.toList).isSome

-- The replacement of a match: an ampersand stands for all of it, a digit behind a backslash for a
-- group.
def replaced (whole : List Char) (groups : List (Nat × List Char)) : List Char → List Char
  | '\\' :: 'n' :: rest => '\n' :: replaced whole groups rest
  | '\\' :: 't' :: rest => '\t' :: replaced whole groups rest
  | '\\' :: c :: rest =>
      if c.isDigit then
        let n := c.toNat - 48
        let text := if n = 0 then whole else (groups.lookup n).getD []
        text ++ replaced whole groups rest
      else c :: replaced whole groups rest
  | '&' :: rest => whole ++ replaced whole groups rest
  | c :: rest => c :: replaced whole groups rest
  | [] => []

def substitute (regex : Regex) (replacement : List Char) (ignoreCase all : Bool) :
    Nat → Nat → Regex.Cursor → List Char × Nat
  | 0, _, k => (k.rest, 0)
  | n + 1, skipped, k =>
      match Regex.find ignoreCase regex (k.rest.length + 1) { k with groups := [] } with
      | none => (k.rest, 0)
      | some (start, stop) =>
          let before := k.rest.take (k.rest.length - start.rest.length)
          let whole := start.rest.take (start.rest.length - stop.rest.length)
          let text := if skipped = 0 then replaced whole stop.groups replacement else whole
          let count := if skipped = 0 then 1 else 0
          if skipped = 0 && !all then (before ++ text ++ stop.rest, 1)
          else
            let (more, next) : List Char × Option Regex.Cursor :=
              match whole, stop.rest with
              | [], [] => ([], none)
              | [], c :: rest => ([c], some (stop.step c rest))
              | _, _ => ([], some stop)
            match next with
            | none => (before ++ text, count)
            | some next =>
                let (rest, others) :=
                  substitute regex replacement ignoreCase all n (skipped - 1) next
                (before ++ text ++ more ++ rest, count + others)

-- The work on one line: the line as it is by now, what has been written, what follows it, and
-- whether it is gone or the last one.
structure Round where
  line : String
  written : String
  appended : String
  deleted : Bool
  quit : Option (Nat × Bool)

def apply (n : Nat) (r : Round) (action : Action) : Round :=
  let put (text : String) : Round := { r with written := r.written ++ text }
  match action with
  | .substitute regex replacement ignoreCase number all printed =>
      let (cs, count) := substitute regex replacement ignoreCase all (r.line.length + 2)
        (number - 1) ⟨[], r.line.toList, []⟩
      let line := String.ofList cs
      let r := if count = 0 then r else { r with line }
      if printed && count ≠ 0 then { r with written := r.written ++ line ++ "\n" } else r
  | .print => put (r.line ++ "\n")
  | .delete => { r with deleted := true }
  | .quit status printed => { r with quit := some (status, printed) }
  | .number => put (toString n ++ "\n")
  | .translate source target =>
      let table := source.zip target
      { r with line := String.ofList (r.line.toList.map fun c => (table.lookup c).getD c) }
  | .append text => { r with appended := r.appended ++ text }
  | .insert text => put text
  | .change text => { put text with deleted := true }

-- Applies commands to a line; ranges that are open are known by the places of their commands.
def applyAll (n : Nat) (isLast : Bool) :
    List (Step × Nat) → List Nat → Round → List Nat × Round
  | [], open_, r => (open_, r)
  | (step, place) :: rest, open_, r =>
      if r.deleted || r.quit.isSome then (open_, r)
      else
        let isOpen := open_.contains place
        let (chosen, open_) : Bool × List Nat :=
          match step.start, step.stop with
          | none, _ => (true, open_)
          | some start, none => (start.means n isLast r.line, open_)
          | some start, some stop =>
              if isOpen then
                let ends : Bool :=
                  match stop with
                  | .line m => m ≤ n
                  | stop => stop.means n isLast r.line
                (true, if ends then open_.filter (· ≠ place) else open_)
              else if start.means n isLast r.line then
                let single : Bool :=
                  match stop with
                  | .line m => m ≤ n
                  | _ => false
                (true, if single then open_ else place :: open_)
              else (false, open_)
        let r := if chosen != step.negated then apply n r step.action else r
        applyAll n isLast rest open_ r

-- Applies commands to lines one after another, and gives the status. The last line may lack its
-- line feed.
def lines (steps : List (Step × Nat)) (quiet : Bool) :
    Nat → List Nat → List String → Act PUnit
  | _, _, [] => return ()
  | n, open_, full :: rest => do
      let ended := full.toList.getLast? = some '\n'
      let line := if ended then Raw.take full (full.length - 1) else full
      let (open_, r) := applyAll n rest.isEmpty steps open_ ⟨line, "", "", false, none⟩
      let silent := quiet || r.deleted || ((r.quit.map fun (_, printed) => !printed).getD false)
      let last := if silent then "" else r.line ++ (if ended then "\n" else "")
      Act.print (r.written ++ last ++ r.appended)
      match r.quit with
      | some (status, _) => throw (.status status)
      | none => lines steps quiet (n + 1) open_ rest

end Sed

def sed (r : Request) : Act PUnit := do
  let o ← Act.options r (Options.form "nErsuz" "ef" [("quiet", 'n'), ("silent", 'n'),
    ("expression", 'e'), ("regexp-extended", 'E')]) 1
  let given := (o.given.filter fun (c, _) => c == 'e').map (·.2)
  let (script, paths) :=
    if given.isEmpty then (o.operands.headD "", o.operands.drop 1)
    else ("\n".intercalate given, o.operands)
  if given.isEmpty && o.operands.isEmpty then
    Act.mutter ("Usage: " ++ r.name
      ++ " [OPTION]... \x7bscript-only-if-no-other-script\x7d [input-file]...\n")
    throw (.status 1)
  match Sed.readSteps (o.has 'E' || o.has 'r') (script.length + 1) script.toList with
  | none =>
      Act.fail r "-e expression #1, char 1: unknown command" 1
  | some steps =>
      let mut all := []
      for path in if paths.isEmpty then ["-"] else paths do
        match ← Act.readFile r path with
        | .ok text => all := all ++ fullLines text
        | .error .isDirectory =>
            Act.complain r ("read error on " ++ path ++ ": Is a directory") 2
        | .error fault => Act.complain r ("can't read " ++ path ++ ": " ++ fault.text) 2
      Sed.lines steps.zipIdx (o.has 'n') 1 [] all

end ProxyTunnel.Tool
