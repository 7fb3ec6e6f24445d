import ProxyTunnel.Proxy.Target
import ProxyTunnel.Settings

/-!
The variables that put the library into a child process and tell it what to do.
-/

set_option autoImplicit false

namespace ProxyTunnel

structure Injection where
  proxy : String
  debug : Bool
  budget : Option Duration
deriving DecidableEq, Repr

namespace Injection

def linkerVariable : String := "LD_PRELOAD"

def isActive (i : Injection) : Bool := (Target.parse? i.proxy).isSome

def linkerValue (library : Bytes) (existing : Option String) : String :=
  match existing with
  | none | some "" => Utf8.lossy library
  | some value => Utf8.lossy library ++ ":" ++ value

def childVariables (i : Injection) (library : Bytes) (existing : Option String) :
    List (String × String) :=
  [(linkerVariable, linkerValue library existing), (Settings.proxyVariable, i.proxy)]
    ++ (if i.debug then [(Settings.debugVariable, "1")] else [])
    ++ (i.budget.map fun b => (Settings.timeoutVariable, toString b.millis)).toList

end Injection

end ProxyTunnel
