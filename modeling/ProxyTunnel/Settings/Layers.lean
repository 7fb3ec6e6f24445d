import ProxyTunnel.Settings.Path

/-!
Settings in layers. Defaults come first, then the variables of an environment, then overrides; later
layers prevail. A variable contributes if its name starts with the common head in any case, under
the rest of the name in lower case.
-/

set_option autoImplicit false

namespace ProxyTunnel

structure Layers where
  defaults : List (String × Value)
  source : List (String × String)
  overrides : List (String × Value)

namespace Layers

def head : String := "sshtunnel_"

def settingOf? (name : String) : Option String :=
  let cs := (Text.lower name).toList
  if head.toList.isPrefixOf cs then some (String.ofList (cs.drop head.toList.length)) else none

-- The settings after one more variable, unless it names a place that cannot be.
def enter (table : Table) (name text : String) : Option Table :=
  match settingOf? name with
  | none => some table
  | some setting => (Path.readLeniently setting).set table (.text text)

def ofSource (source : List (String × String)) : Option Table :=
  source.foldlM (fun table (name, text) => enter table name text) .nil

-- The paths that are named, each with the value that comes with it; the first name that is no path
-- is a problem.
def paths : List (String × Value) → Except PathProblem (List (Path × Value))
  | [] => .ok []
  | (name, value) :: rest =>
      match Path.read name with
      | .error problem => .error problem
      | .ok path => (paths rest).map ((path, value) :: ·)

def lastOfEach : List (Path × Value) → List (Path × Value)
  | [] => []
  | entry :: rest =>
      if rest.any (·.1 = entry.1) then lastOfEach rest else entry :: lastOfEach rest

-- Sets every value at its path; of a path that is given twice the later value counts. A place that
-- cannot be panics.
def setAll (table : Table) (entries : List (String × Value)) : Except Stop Table :=
  match paths entries with
  | .error problem => .error (.settings (.badPath problem.reason))
  | .ok entries =>
      match (lastOfEach entries).foldlM (fun table (path, value) => path.set table value) table with
      | none => .error .panic
      | some table => .ok table

def overlay (table : Table) : Table → Option Table
  | .nil => some table
  | .cons name value rest =>
      ((Path.readLeniently name).set table value).bind fun table => overlay table rest

def combine (layers : Layers) : Except Stop Table :=
  match setAll .nil layers.defaults with
  | .error stop => .error stop
  | .ok table =>
      match (ofSource layers.source).bind (overlay table) with
      | none => .error .panic
      | some table => setAll table layers.overrides

end Layers

end ProxyTunnel
