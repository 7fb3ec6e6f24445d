import ProxyTunnel.Text.Utf8

/-!
The environment of a process: variables with distinct names, names and values of any bytes.
-/

set_option autoImplicit false

namespace ProxyTunnel

abbrev Environment := List (Bytes × Bytes)

namespace Environment

def get? (env : Environment) (name : String) : Option Bytes := env.lookup (Utf8.encode name)

def getText? (env : Environment) (name : String) : Option String :=
  (env.get? name).bind Utf8.decode?

def set (env : Environment) (name value : Bytes) : Environment :=
  match env with
  | [] => [(name, value)]
  | (n, v) :: rest => if n = name then (name, value) :: rest else (n, v) :: set rest name value

def setAll (env : Environment) (entries : List (Bytes × Bytes)) : Environment :=
  entries.foldl (fun env (name, value) => env.set name value) env

def unset (env : Environment) (name : Bytes) : Environment := env.filter (·.1 ≠ name)

def ofList (entries : List (Bytes × Bytes)) : Environment := setAll [] entries

def isText (entry : Bytes × Bytes) : Bool :=
  (Utf8.decode? entry.1).isSome && (Utf8.decode? entry.2).isSome

def texts (env : Environment) : List (String × String) :=
  env.filterMap fun (name, value) =>
    match Utf8.decode? name, Utf8.decode? value with
    | some name, some value => some (name, value)
    | _, _ => none

end Environment

end ProxyTunnel
