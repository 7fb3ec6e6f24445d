import ProxyTunnel.Settings.Layers

/-!
The library with which settings are read from variables, as far as it is used: it takes in one
variable after another, and is then asked for settings by name.
-/

set_option autoImplicit false

namespace ProxyTunnel

-- What is found under a name: nothing or a text, or the shape of what is no text.
abbrev Reading := Except String (Option String)

structure Configuration where
  State : Type
  start : State
  -- The state after one more variable. There is none if the library panics on it.
  take : State → String → String → Option State
  read : State → String → Reading

namespace Configuration

-- Takes in variables in their order, unless one of them makes it panic.
def load (c : Configuration) (source : List (String × String)) : Option c.State :=
  source.foldlM (fun state (name, text) => c.take state name text) c.start

end Configuration

def Table.read (table : Table) (name : String) : Reading := ((table.get? name).getD .null).asText

-- The library that keeps settings in a table by the paths that their names are.
def Configuration.layered : Configuration where
  State := Table
  start := .nil
  take := Layers.enter
  read := Table.read

end ProxyTunnel
