import ProxyTunnel.Child.Tool.Citation
import ProxyTunnel.Child.World
import ProxyTunnel.Environment

/-!
How a tool is asked, and what it leaves behind. A tool writes to standard output and error, reads
its input as a whole, and may change files.
-/

set_option autoImplicit false

namespace ProxyTunnel

namespace Tool

structure Request where
  name : String
  arguments : List String
  env : Environment
  input : Except PathFault String
  inputIsFile : Bool

structure Work where
  tree : FileTree
  -- What has been written so far, latest first, each with whether it is a complaint.
  written : List (Bool × String)
  status : Nat
  consumed : Bool

inductive Ending where
  | status (status : Nat)
  | killed (s : Signal)
  -- Another command takes the place of the tool, or there is a complaint.
  | becomes (env : Environment) (command : List String) (complaint : PathFault → String)
  | runs (commands : List (List String)) (complaint : String)

abbrev Act := ExceptT Ending (StateM Work)

namespace Act

def print (text : String) : Act PUnit :=
  modify fun w => { w with written := (false, text) :: w.written }

def mutter (text : String) : Act PUnit :=
  modify fun w => { w with written := (true, text) :: w.written }

def complain (r : Request) (text : String) (status : Nat) : Act PUnit := do
  mutter (r.name ++ ": " ++ text ++ "\n")
  modify fun w => { w with status := max w.status status }

def fail {α : Type} (r : Request) (text : String) (status : Nat) : Act α := do
  mutter (r.name ++ ": " ++ text ++ "\n")
  throw (.status status)

def misuse {α : Type} (r : Request) (text : String) (status : Nat) : Act α := do
  mutter (r.name ++ ": " ++ text ++ "\nTry '" ++ r.name ++ " --help' for more information.\n")
  throw (.status status)

def setStatus (status : Nat) : Act PUnit := modify fun w => { w with status }

def tree : Act FileTree := do return (← get).tree

def setTree (tree : FileTree) : Act PUnit := modify fun w => { w with tree }

def readInput (r : Request) : Act (Except PathFault String) := do
  let before := (← get).consumed
  modify fun w => { w with consumed := true }
  return if before then .ok "" else r.input

def readFile (r : Request) (path : String) : Act (Except PathFault String) := do
  if path = "-" ∨ World.standardFd? path = some 0 then readInput r
  else
    let tree ← tree
    match tree.place (Raw.toBytes path) with
    | .error fault => return .error fault
    | .ok place =>
        if tree.isDirectoryAt place then return .error .isDirectory
        else return .ok (Raw.ofBytes (tree.contents place))

def unreadable (path : String) (fault : PathFault) : String :=
  quoteIfNeeded path ++ ": " ++ fault.text

-- The contents of files, or of the input if none is named. Files that cannot be read are complained
-- about and left out.
def readFiles (r : Request) (paths : List String)
    (wording : String → PathFault → String) : Act (List (String × String)) := do
  let mut found := []
  for path in if paths.isEmpty then ["-"] else paths do
    match ← readFile r path with
    | .ok text => found := found ++ [(path, text)]
    | .error fault => complain r (wording path fault) 1
  return found

end Act

structure Options where
  given : List (Char × String)
  operands : List String

namespace Options

def has (o : Options) (letter : Char) : Bool := o.given.any fun (c, _) => c == letter

def value? (o : Options) (letter : Char) : Option String :=
  (o.given.reverse.find? fun (c, _) => c == letter).map (·.2)

-- How options are written: single letters, of which some take a value, and long names that stand
-- for letters.
structure Form where
  plain : List Char
  valued : List Char
  long : List (String × Char)
  anywhere : Bool

def form (plain valued : String) (long : List (String × Char)) : Form :=
  ⟨plain.toList, valued.toList, long, true⟩

-- Reads a row of letters. The first valued one takes the rest of the row, or the next argument.
def readLetters (f : Form) :
    List Char → List String → Except String (List (Char × String) × List String)
  | [], rest => .ok ([], rest)
  | c :: cs, rest =>
      if f.valued.contains c then
        match cs, rest with
        | [], value :: rest => .ok ([(c, value)], rest)
        | [], [] => .error ("option requires an argument -- '" ++ String.singleton c ++ "'")
        | cs, rest => .ok ([(c, String.ofList cs)], rest)
      else if f.plain.contains c then
        (readLetters f cs rest).map fun (given, rest) => ((c, "") :: given, rest)
      else .error ("invalid option -- '" ++ String.singleton c ++ "'")

def readLong (f : Form) (text : String) (rest : List String) :
    Except String (List (Char × String) × List String) :=
  let name := String.ofList (text.toList.takeWhile (· ≠ '='))
  let value := Raw.drop text (name.length + 1)
  match f.long.lookup name with
  | none => .error ("unrecognized option '--" ++ text ++ "'")
  | some c =>
      if f.valued.contains c then
        if name.length < text.length then .ok ([(c, value)], rest)
        else
          match rest with
          | value :: rest => .ok ([(c, value)], rest)
          | [] => .error ("option '--" ++ name ++ "' requires an argument")
      else .ok ([(c, "")], rest)

def readAll (f : Form) : Nat → List String → Except String Options
  | 0, _ => .ok ⟨[], []⟩
  | _, [] => .ok ⟨[], []⟩
  | n + 1, a :: rest =>
      let more (found : List (Char × String) × List String) : Except String Options :=
        (readAll f n found.2).map fun o => { o with given := found.1 ++ o.given }
      match a.toList with
      | ['-', '-'] => .ok ⟨[], rest⟩
      | '-' :: '-' :: cs => (readLong f (String.ofList cs) rest).bind more
      | '-' :: c :: cs => (readLetters f (c :: cs) rest).bind more
      | _ =>
          if f.anywhere then
            (readAll f n rest).map fun o => { o with operands := a :: o.operands }
          else .ok ⟨[], a :: rest⟩

end Options

def Act.options (r : Request) (f : Options.Form) (status : Nat) : Act Options :=
  match Options.readAll f (r.arguments.length + 1) r.arguments with
  | .ok o => return o
  | .error problem => Act.misuse r problem status

def count? (text : String) : Option Nat :=
  let cs := text.toList
  let digits := cs.takeWhile Char.isDigit
  let n : Nat := digits.foldl (fun n c => 10 * n + (c.toNat - 48)) 0
  match digits, cs.drop digits.length with
  | [], _ => none
  | _, [] => some n
  | _, ['k'] | _, ['K'] => some (n * 1024)
  | _, ['b'] => some (n * 512)
  | _, ['M'] => some (n * 1048576)
  | _, _ => none

def fullLines (text : String) : List String :=
  let parts := Raw.splitAt '\n' text
  let ended := parts.dropLast.map (· ++ "\n")
  match parts.getLastD "" with
  | "" => ended
  | last => ended ++ [last]

end Tool

end ProxyTunnel
