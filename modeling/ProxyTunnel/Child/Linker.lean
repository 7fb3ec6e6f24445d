import ProxyTunnel.Child.World

/-!
What the dynamic linker says at the start of every program about libraries that it was asked to load
first. All files in reach are empty or texts, and are no libraries.
-/

set_option autoImplicit false

namespace ProxyTunnel.Linker

def listVariable : String := "LD_PRELOAD"

def entries (value : String) : List String :=
  ((Raw.splitAt ':' value).flatMap (Raw.splitAt ' ')).filter (· ≠ "")

-- Why a library cannot be loaded. A name without a slash is not looked for among files.
def reason (tree : FileTree) (entry : String) : String :=
  let missing := "cannot open shared object file"
  if !entry.toList.contains '/' then missing
  else
    match tree.resolve (Raw.toBytes entry) with
    | .error _ => missing
    | .ok (.directory _) => "cannot read file data"
    | .ok (.file contents _) =>
        if contents.length < 64 then "file too short" else "invalid ELF header"
    | .ok _ => "file too short"

def sender : String := "ERROR: ld.so:"

def complaints (tree : FileTree) (env : Environment) : List String :=
  match env.get? listVariable with
  | none => []
  | some value =>
      (entries (Raw.ofBytes value)).map fun entry =>
        sender ++ " object '" ++ entry ++ "' from " ++ listVariable
          ++ " cannot be preloaded (" ++ reason tree entry ++ "): ignored.\n"

def report (s : Start) (w : World) : World :=
  match s.descriptors.lookup 2 with
  | none => w
  | some id => (complaints w.tree s.env).foldl (fun w line => (w.write id line).getD w) w

end ProxyTunnel.Linker
