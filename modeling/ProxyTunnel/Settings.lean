import ProxyTunnel.Environment
import ProxyTunnel.Settings.Configuration
import ProxyTunnel.Text.Blank

/-!
The settings of interception: the proxy URL, whether diagnostics are wanted, how long a response may
take, and which diagnostics are shown. A bad value disables the setting that it is meant for.
-/

set_option autoImplicit false

namespace ProxyTunnel

structure Settings where
  proxy : Option String
  debug : Bool
  budget : Option Duration
  filter : Option String
deriving DecidableEq, Repr

namespace Settings

def proxyVariable : String := "SSHTUNNEL_PROXY"

def debugVariable : String := "SSHTUNNEL_DEBUG"

def timeoutVariable : String := "SSHTUNNEL_TIMEOUT_MS"

def filterVariable : String := "SSHTUNNEL_LOG"

def none : Settings := ⟨.none, false, .none, .none⟩

def maxMillis : Nat := Nat.pow 2 64 - 1

-- The time that a text allows: a positive decimal number of milliseconds, perhaps with a plus sign
-- and between white space.
def budgetOf (text : String) : Option Duration :=
  match Decimal.readSigned? (Text.trim text.toList) with
  | .none => .none
  | some n => if 0 < n ∧ n ≤ maxMillis then some (.ofMillis n) else .none

def ofTexts (proxy debug timeout filter : Option String) : Settings where
  proxy := proxy
  debug := debug = some "1"
  budget := timeout.bind budgetOf
  filter := filter.filter (· ≠ "")

-- The text that is found under a name.
def textOf (found : String → Reading) (name : String) : Except SettingsProblem (Option String) :=
  match found name with
  | .ok text => .ok text
  | .error shape => .error (.notText shape name)

def ofFound (found : String → Reading) : Except SettingsProblem Settings := do
  let proxy ← textOf found "proxy"
  let debug ← textOf found "debug"
  let timeout ← textOf found "timeout_ms"
  let filter ← textOf found "log"
  return ofTexts proxy debug timeout filter

def ofLayers (layers : Layers) : Except Stop Settings :=
  match layers.combine with
  | .error stop => .error stop
  | .ok table => (ofFound table.read).mapError fun problem => .settings problem

def isOwn (name : String) : Bool := "SSHTUNNEL_".toList.isPrefixOf name.toList

-- The variables that settings are looked for in. What is no text is passed by; of a name that is
-- given twice the later text counts.
def source (env : Environment) : List (String × String) :=
  let texts := (Environment.ofList (env.filter Environment.isText)).texts
  texts.filter fun (name, _) => isOwn name

-- The settings that variables hold, as a library reads them.
def ofEnvironmentBy (c : Configuration) (env : Environment) : Except Stop Settings :=
  match c.load (source env) with
  | Option.none => .error .panic
  | some state => (ofFound (c.read state)).mapError fun problem => .settings problem

def ofEnvironment (env : Environment) : Except Stop Settings := ofEnvironmentBy .layered env

def debugRequested (env : Environment) : Bool := env.getText? debugVariable = some "1"

end Settings

end ProxyTunnel
