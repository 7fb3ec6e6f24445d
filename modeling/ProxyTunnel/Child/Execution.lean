import ProxyTunnel.Child.Shell.Execution

/-!
Running a program to its end as the child of a launcher. It writes to its standard output and error,
may send signals to itself or interrupt the launcher, which answers with a signal of its own, and
leaves a wait status.
-/

set_option autoImplicit false

namespace ProxyTunnel

structure Outcome where
  stdout : Bytes
  stderr : Bytes
  interrupts : Nat
  status : WaitStatus
deriving Repr

namespace Environment

def rendered (env : Environment) : List Bytes := env.map fun (name, value) => name ++ 61 :: value

-- The variable that a text stands for. The first character belongs to the name in any case.
def parseEntry (text : Bytes) : Bytes × Bytes :=
  let start := text.take 1
  let name := start ++ (text.drop 1).takeWhile (· ≠ 61)
  (name, text.drop (name.length + 1))

def handedOver (env : Environment) : Environment := env.rendered.map parseEntry

end Environment

namespace Found

def maxText : Nat := 131071

def maxList : Nat := Nat.pow 2 21

def takes (texts : List Bytes) : Bool :=
  texts.all (fun text => text.length ≤ maxText)
    && texts.foldl (fun n text => n + text.length + 9) 0 ≤ maxList

def start (name : Bytes) (arguments : List Bytes) (env : Environment) : Start :=
  ⟨World.childPid, World.launcherPid, Raw.ofBytes name, arguments.map Raw.ofBytes, env.handedOver,
    [(0, World.nowhere), (1, World.stdout), (2, World.stderr)], []⟩

-- Runs a program under a name with its arguments in an environment, under a parent that answers an
-- interrupt with a signal.
def run (found : Found) (tree : FileTree) (env : Environment) (name : Bytes)
    (arguments : List Bytes) (answer : Signal) : Outcome :=
  let (w, status) :=
    Shell.Engine.standard.execute found (start name arguments env) (World.start tree answer)
  ⟨Raw.toBytes (w.written World.stdout), Raw.toBytes (w.written World.stderr), w.interrupts, status⟩

def runSignalled (found : Found) (tree : FileTree) (env : Environment) (name : Bytes)
    (arguments : List Bytes) (s : Signal) : Outcome :=
  if s.ends then ⟨[], [], 0, .killed s⟩ else found.run tree env name arguments .terminate

end Found

end ProxyTunnel
