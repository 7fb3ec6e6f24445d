import ProxyTunnel.Diagnostics.Filter
import ProxyTunnel.Intercept.Context
import ProxyTunnel.Settings

/-!
How a process gets its context: settings are read from its environment once, diagnostics are set up,
and settings that cannot be used leave interception inactive. A panic of the library that reads them
leaves the process without a context.
-/

set_option autoImplicit false

namespace ProxyTunnel

namespace Context

def ofSettings (settings : Settings) : Context := ofUrl settings.proxy settings.budget

def settingsRemarks (settings : Settings) : List Remark :=
  (settings.proxy.map Target.remarks).getD []

end Context

-- A process that has its context: what it knows and what it has said.
structure Startup where
  context : Context
  reporter : Reporter
  remarks : List Remark
deriving Repr

namespace Startup

-- The settings of an environment and, if they cannot be used, the fault; then all that is kept is
-- the wish for diagnostics.
def settings? (c : Configuration) (env : Environment) : Option (Settings × Option Fault) :=
  match Settings.ofEnvironmentBy c env with
  | .ok settings => some (settings, none)
  | .error (.fault fault) =>
      some ({ Settings.none with debug := Settings.debugRequested env }, some fault)
  | .error _ => none

def optional : Option String → String
  | none => "None"
  | some text => "Some(" ++ Text.quote text ++ ")"

def announce (program : Bytes) (settings : Settings) (fault : Option Fault) : List Remark :=
  let context := Context.ofSettings settings
  (fault.map fun fault =>
      (⟨.warn, .context, "Ignoring shim configuration: " ++ fault.message⟩ : Remark)).toList
    ++ [⟨.debug, .context, "# app: " ++ Utf8.lossy program⟩,
      ⟨.debug, .context, "# prx: " ++ optional settings.proxy⟩]
    ++ Context.settingsRemarks settings
    ++ [⟨.debug, .context,
      match context.target with
      | some target => "Tunneling through proxy at " ++ target.text
      | none => "No usable proxy target, interception disabled"⟩]

-- A process makes its context of its environment, unless that panics.
def runBy (c : Configuration) (program : Bytes) (env : Environment) : Option Startup :=
  (settings? c env).map fun (settings, fault) =>
    ⟨Context.ofSettings settings, (Reporter.silent.install settings.debug settings.filter).2,
      announce program settings fault⟩

def run (program : Bytes) (env : Environment) : Option Startup := runBy .layered program env

end Startup

end ProxyTunnel
