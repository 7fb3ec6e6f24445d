import ProxyTunnel.Environment
import ProxyTunnel.Fault

/-!
What a child is started with: a program, its arguments, and the variables that are added to the
environment of the launcher.
-/

set_option autoImplicit false

namespace ProxyTunnel

structure LaunchSpec where
  program : String
  arguments : List String
  additions : List (String × String)
deriving DecidableEq, Repr

namespace LaunchSpec

def ofCommand (command : List String) (additions : List (String × String)) :
    Except Fault LaunchSpec :=
  match command with
  | [] => .error (.process .noCommand)
  | program :: arguments => .ok ⟨program, arguments, additions⟩

def childEnvironment (spec : LaunchSpec) (env : Environment) : Environment :=
  env.setAll (spec.additions.map fun (name, value) => (Utf8.encode name, Utf8.encode value))

def hasNul (spec : LaunchSpec) : Bool :=
  let texts := spec.program :: spec.arguments ++ spec.additions.flatMap fun (n, v) => [n, v]
  texts.any fun text => text.toList.contains '\x00'

end LaunchSpec

end ProxyTunnel
