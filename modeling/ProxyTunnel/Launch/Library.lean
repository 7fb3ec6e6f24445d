import ProxyTunnel.Diagnostics
import ProxyTunnel.Fault
import ProxyTunnel.FileTree

/-!
Where the library that intercepts calls is found: at the path that was given, or else at the first
of the usual places that holds a file.
-/

set_option autoImplicit false

namespace ProxyTunnel.Library

def fileName : String := "libtunnelhook.so"

def environmentName : String := "TUNNELHOOK_LIBRARY"

def standardDirectories : List String :=
  ["/usr/local/lib/tunnelhook", "/usr/lib/tunnelhook", "./target/release"]

-- What is known about the place of the library: a path that was asked for, the one in the
-- environment, and the directory of the launcher.
structure Hints where
  explicit : Option Bytes
  fromEnvironment : Option Bytes
  launcherDirectory : Option Bytes
deriving DecidableEq, Repr

def candidates (hints : Hints) : List Bytes :=
  let file := Utf8.encode fileName
  hints.fromEnvironment.toList
    ++ hints.launcherDirectory.toList.map (FileTree.join · file)
    ++ standardDirectories.map fun directory => FileTree.join (Utf8.encode directory) file

def locate (tree : FileTree) (hints : Hints) : Except Fault Bytes :=
  match hints.explicit with
  | some path =>
      if tree.isFile path then .ok path else .error (.libraryNotFound (Text.quotePath path))
  | none =>
      match (candidates hints).find? tree.isFile with
      | some path => .ok path
      | none => .error (.libraryNotFound fileName)

-- What is said about the search; nothing about a path that was asked for and is not there.
def remarks (hints : Hints) (found : Except Fault Bytes) : List Remark :=
  match hints.explicit, found with
  | some _, .ok path => [⟨.debug, .library, "Using preload library: " ++ Text.quotePath path⟩]
  | some _, .error _ => []
  | none, .ok path => [⟨.debug, .library, "Found preload library at: " ++ Text.quotePath path⟩]
  | none, .error _ => [⟨.warn, .library, s!"No {fileName} found"⟩]

end ProxyTunnel.Library
