import ProxyTunnel.Child.Shell.Source
import ProxyTunnel.Child.World
import ProxyTunnel.Environment
import ProxyTunnel.Text.Decimal

/-!
The state of a shell at work, and the ways in which a command can stop it.
-/

set_option autoImplicit false

namespace ProxyTunnel

namespace Shell

structure Variable where
  name : String
  value : Option String
  exported : Bool
  readOnly : Bool
deriving DecidableEq, Repr

structure Memory where
  pid : Nat
  parent : Nat
  -- The number of the shell from which this one was forked.
  main : Nat
  name : String
  arguments : List String
  vars : List Variable
  functions : List (String × Command)
  -- The words that stand for other texts where a command begins.
  aliases : List (String × String)
  -- The programs that have been found in the search path, with their paths.
  known : List (String × String)
  -- For every function at work, the variables that it hides.
  hidden : List (List (String × Option Variable))
  options : List Char
  -- The actions for signals, and under number 0 for the end of the shell.
  traps : List (Nat × String)
  last : Nat
  -- The status of the last commands whose output was inserted.
  captured : Option Nat
  background : Option Nat
  line : Nat
  reading : Nat
  loops : Nat
  descriptors : List (Nat × Nat)
  builtin : Option String
  -- Where in an argument the next option is looked for.
  optionPlace : Nat
  mask : Nat

-- A command in the background. One that sleeps does its work when its time has come, or when it is
-- waited for.
structure Job where
  pid : Nat
  command : Command
  memory : Memory
  cwd : Place
  delay : Nat
  status : Option WaitStatus

end Shell

structure Shell extends Shell.Memory where
  world : World
  jobs : List Shell.Job

namespace Shell

inductive Stop where
  | leave (loops : Nat)
  | skip (loops : Nat)
  | back
  -- Ends the shell, perhaps with a status that was asked for.
  | exit (chosen : Bool)
  | failure
  | killed (s : Signal)
  -- Another program has taken the place of the shell, and has ended.
  | became (status : WaitStatus)
  | exhausted
deriving DecidableEq, Repr

abbrev Run := ExceptT Stop (StateM Shell)

structure Setting where
  -- Whether its failure is looked at, so that it does not end the shell.
  tested : Bool
  -- Whether nothing comes after it, so that it may take the place of the shell.
  final : Bool
deriving DecidableEq, Repr

def Setting.plain : Setting := ⟨false, false⟩

def Setting.testing : Setting := ⟨true, false⟩

namespace Run

def setLast (status : Nat) : Run PUnit := modify fun sh => { sh with last := status }

def emit (fd : Nat) (text : String) : Run Bool := do
  let sh ← get
  match sh.descriptors.lookup fd with
  | none => return false
  | some id =>
      match sh.world.write id text with
      | none => return false
      | some world =>
          set { sh with world }
          return true

def mutter (text : String) : Run PUnit := do
  let _ ← emit 2 text

def report (text : String) : Run PUnit := do
  let sh ← get
  let command := (sh.builtin.map (· ++ ": ")).getD ""
  mutter (sh.name ++ ": " ++ toString sh.line ++ ": " ++ command ++ text ++ "\n")

def fail {α : Type} (text : String) : Run α := do
  report text
  setLast 2
  throw .failure

end Run

def Memory.lookup? (m : Memory) (name : String) : Option Variable :=
  m.vars.find? fun v => v.name = name

def Memory.valueOf? (m : Memory) (name : String) : Option String :=
  (m.lookup? name).bind (·.value)

def Memory.valueOf (m : Memory) (name : String) : String := (m.valueOf? name).getD ""

def replaceVariable (vars : List Variable) (v : Variable) : List Variable :=
  match vars with
  | [] => [v]
  | w :: rest => if w.name = v.name then v :: rest else w :: replaceVariable rest v

namespace Run

def assign (name value : String) : Run PUnit := do
  let sh ← get
  let old := (sh.lookup? name).getD ⟨name, none, sh.options.contains 'a', false⟩
  if old.readOnly then fail (name ++ ": is read only")
  else
    set { sh with
      vars := replaceVariable sh.vars { old with value := some value }
      optionPlace := if name = "OPTIND" then 0 else sh.optionPlace
      known := if name = "PATH" then [] else sh.known }

def mark (name : String) (change : Variable → Variable) : Run PUnit :=
  modify fun sh =>
    let old := (sh.lookup? name).getD ⟨name, none, false, false⟩
    { sh with vars := replaceVariable sh.vars (change old) }

def unsetVariable (name : String) : Run PUnit := do
  let sh ← get
  match sh.lookup? name with
  | none => return ()
  | some v =>
      if v.readOnly then fail (name ++ ": is read only")
      else set { sh with vars := sh.vars.filter fun v => v.name ≠ name }

end Run

def rowOf (rows : Nat) (name : String) : Nat :=
  let codes := name.toList.map Char.toNat
  codes.foldl (· + ·) (16 * codes.headD 0) % rows

def inRows {α : Type} (rows : Nat) (nameOf : α → String) (all : List α) : List α :=
  all.mergeSort fun a b => decide (rowOf rows (nameOf a) ≤ rowOf rows (nameOf b))

def Memory.environment (m : Memory) : Environment :=
  let exported := m.vars.filter fun v => v.exported
  (inRows 39 Variable.name exported).filterMap fun v =>
    v.value.map fun value => (Raw.toBytes v.name, Raw.toBytes value)

def importVariables (env : Environment) : List Variable :=
  env.foldl
    (fun vars (name, value) =>
      let name := Raw.ofBytes name
      if isName name then replaceVariable vars ⟨name, some (Raw.ofBytes value), true, false⟩
      else vars)
    []

end Shell

end ProxyTunnel
