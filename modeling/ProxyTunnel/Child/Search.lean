import ProxyTunnel.Environment
import ProxyTunnel.Fault
import ProxyTunnel.FileTree

/-!
How the name of a program leads to a program: a name with a slash is a path, any other is looked for
in the directories of the search path.
-/

set_option autoImplicit false

namespace ProxyTunnel

inductive Found where
  | program (program : Executable)
  -- A file with a text for a shell, or for the interpreter that its first line names.
  | script (path contents : Bytes)

namespace Search

def atPath (tree : FileTree) (path : Bytes) : Except PathFault Found :=
  match tree.resolve path with
  | .ok (.program p) => .ok (.program p)
  | .ok (.file contents true) => .ok (.script path contents)
  | .ok _ => .error .notPermitted
  | .error fault => .error fault

def directories (path : Bytes) : List Bytes :=
  path.foldr
    (fun b parts =>
      if b = 58 then [] :: parts
      else
        match parts with
        | [] => [[b]]
        | part :: rest => (b :: part) :: rest)
    [[]]

def standardPath : Bytes := Utf8.encode "/bin:/usr/bin"

-- Looks for a program in one directory after another. Where it is missing the search goes on; where
-- it may not be run the search goes on too, but that is what is reported in the end.
def inDirectories (tree : FileTree) (name : Bytes) (denied : Bool) :
    List Bytes → Except PathFault Found
  | [] => .error (if denied then .notPermitted else .notFound)
  | directory :: rest =>
      match atPath tree (FileTree.join directory name) with
      | .ok found => .ok found
      | .error .notPermitted => inDirectories tree name true rest
      | .error .notFound | .error .notDirectory => inDirectories tree name denied rest
      | .error fault => .error fault

def find (tree : FileTree) (env : Environment) (name : Bytes) : Except PathFault Found :=
  if name = [] then .error .notFound
  else if 47 ∈ name then atPath tree name
  else inDirectories tree name false (directories ((env.get? "PATH").getD standardPath))

def problemOf : PathFault → SpawnProblem
  | .notFound => .notFound
  | .notDirectory => .notDirectory
  | .tooManyLinks => .tooManyLinks
  | .nameTooLong => .nameTooLong
  | _ => .notPermitted

end Search

end ProxyTunnel
