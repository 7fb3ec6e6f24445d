import ProxyTunnel.Text.Utf8

/-!
A tree of files, and how paths lead through it: from the root or from a working directory, over
`.`, `..` and symbolic links. A change is made at the place that a path leads to.
-/

set_option autoImplicit false

namespace ProxyTunnel

inductive Executable where
  | shell
  | tool (name : String)
deriving DecidableEq, Repr

mutual
inductive Node where
  | file (contents : Bytes) (executable : Bool)
  | program (program : Executable)
  | device
  | link (target : Bytes)
  | directory (entries : Entries)

inductive Entries where
  | nil
  | cons (name : Bytes) (node : Node) (rest : Entries)
end

instance : Inhabited Node := ⟨.device⟩

inductive PathFault where
  | notFound
  | notDirectory
  | tooManyLinks
  | nameTooLong
  | alreadyThere
  | isDirectory
  | notEmpty
  | notPermitted
  | badDescriptor
deriving DecidableEq, Repr

def PathFault.text : PathFault → String
  | notFound => "No such file or directory"
  | notDirectory => "Not a directory"
  | tooManyLinks => "Too many levels of symbolic links"
  | nameTooLong => "File name too long"
  | alreadyThere => "File exists"
  | isDirectory => "Is a directory"
  | notEmpty => "Directory not empty"
  | notPermitted => "Permission denied"
  | badDescriptor => "Bad file descriptor"

abbrev Place := List Bytes

namespace Entries

def get? : Entries → Bytes → Option Node
  | nil, _ => none
  | cons n node rest, name => if n = name then some node else rest.get? name

def put : Entries → Bytes → Node → Entries
  | nil, name, node => cons name node nil
  | cons n old rest, name, node =>
      if n = name then cons n node rest else cons n old (rest.put name node)

def erase : Entries → Bytes → Entries
  | nil, _ => nil
  | cons n node rest, name => if n = name then rest else cons n node (rest.erase name)

def names : Entries → List Bytes
  | nil => []
  | cons n _ rest => n :: rest.names

-- Sets or removes the node at a place below; the directories on the way are there.
def change (entries : Entries) (node : Option Node) : Place → Entries
  | [] => entries
  | [name] =>
      match node with
      | some node => entries.put name node
      | none => entries.erase name
  | name :: rest =>
      match entries.get? name with
      | some (.directory inner) => entries.put name (.directory (inner.change node rest))
      | _ => entries

end Entries

def Node.below? : Node → Place → Option Node
  | node, [] => some node
  | .directory entries, name :: rest =>
      match entries.get? name with
      | some node => node.below? rest
      | none => none
  | _, _ :: _ => none

structure FileTree where
  root : Entries
  cwd : Place

namespace FileTree

def splitPath (path : Bytes) : List Bytes :=
  path.foldr
    (fun b parts =>
      if b = 47 then [] :: parts
      else
        match parts with
        | [] => [[b]]
        | part :: rest => (b :: part) :: rest)
    [[]]

def maxName : Nat := 255

def maxPath : Nat := 4095

def maxLinks : Nat := 40

def nodeAt? (tree : FileTree) (place : Place) : Option Node :=
  (Node.directory tree.root).below? place

def entriesAt? (tree : FileTree) (place : Place) : Option Entries :=
  match tree.nodeAt? place with
  | some (.directory entries) => some entries
  | _ => none

def isDirectoryAt (tree : FileTree) (place : Place) : Bool := (tree.entriesAt? place).isSome

-- Follows the parts of a path from a place. An empty part, as after a slash at the end, stands for
-- the place itself, which must be a directory.
def follow (tree : FileTree) (links : Nat) (place : Place) :
    List Bytes → Except PathFault Place
  | [] => .ok place
  | part :: rest =>
      if !tree.isDirectoryAt place then .error .notDirectory
      else if part = [] ∨ part = [46] then tree.follow links place rest
      else if part = [46, 46] then tree.follow links place.dropLast rest
      else if maxName < part.length then .error .nameTooLong
      else
        match tree.nodeAt? (place ++ [part]) with
        | none => .error .notFound
        | some (.link target) =>
            match links with
            | 0 => .error .tooManyLinks
            | links + 1 =>
                let start := if target.head? = some 47 then [] else place
                tree.follow links start (splitPath target ++ rest)
        | some _ => tree.follow links (place ++ [part]) rest
termination_by parts => (links, parts.length)

def startOf (tree : FileTree) (path : Bytes) : Except PathFault Place :=
  if path = [] then .error .notFound
  else if maxPath < path.length then .error .nameTooLong
  else .ok (if path.head? = some 47 then [] else tree.cwd)

def place (tree : FileTree) (path : Bytes) : Except PathFault Place :=
  match tree.startOf path with
  | .error fault => .error fault
  | .ok start => tree.follow maxLinks start (splitPath path)

def resolve (tree : FileTree) (path : Bytes) : Except PathFault Node :=
  match tree.place path with
  | .error fault => .error fault
  | .ok place =>
      match tree.nodeAt? place with
      | some node => .ok node
      | none => .error .notFound

def enter (tree : FileTree) (path : Bytes) : Except PathFault FileTree :=
  match tree.place path with
  | .error fault => .error fault
  | .ok place =>
      if tree.isDirectoryAt place then .ok { tree with cwd := place } else .error .notDirectory

-- Whether a path leads to a regular file. A path with a NUL leads nowhere.
def isFile (tree : FileTree) (path : Bytes) : Bool :=
  if 0 ∈ path then false
  else
    match tree.resolve path with
    | .ok (.file ..) | .ok (.program _) => true
    | _ => false

def change (tree : FileTree) (place : Place) (node : Option Node) : FileTree :=
  { tree with root := tree.root.change node place }

-- Where a file comes to lie that is made in a directory under the last part of a path; a link under
-- that name is followed, even to nothing. With a slash behind it the name can only be that of a
-- directory.
def landing (tree : FileTree) (links : Nat) (place : Place) :
    List Bytes → Except PathFault Place
  | [] => .ok place
  | [part] =>
      if !tree.isDirectoryAt place then .error .notDirectory
      else if part = [] ∨ part = [46] then .ok place
      else if part = [46, 46] then .ok place.dropLast
      else if maxName < part.length then .error .nameTooLong
      else
        match tree.nodeAt? (place ++ [part]) with
        | some (.link target) =>
            match links with
            | 0 => .error .tooManyLinks
            | links + 1 =>
                let start := if target.head? = some 47 then [] else place
                tree.landing links start (splitPath target)
        | _ => .ok (place ++ [part])
  | part :: next :: rest =>
      let isLast := (next :: rest).all (· = [])
      if isLast ∧ part ≠ [] ∧ tree.isDirectoryAt place then .error .isDirectory
      else
        match tree.follow links place [part] with
        | .error fault => .error fault
        | .ok place => tree.landing links place (next :: rest)
termination_by parts => (links, parts.length)

def trimmedParts (path : Bytes) : List Bytes :=
  match ((splitPath path).reverse.dropWhile (· = [])).reverse with
  | [] => [[]]
  | parts => parts

-- The place of the last name of a path, whether or not it is taken; a link under that name is not
-- followed.
def entry (tree : FileTree) (path : Bytes) : Except PathFault Place :=
  match tree.startOf path with
  | .error fault => .error fault
  | .ok start =>
      let parts := trimmedParts path
      let name := parts.getLastD []
      match tree.follow maxLinks start parts.dropLast with
      | .error fault => .error fault
      | .ok place =>
          if !tree.isDirectoryAt place then .error .notDirectory
          else if name = [] ∨ name = [46] then .ok place
          else if name = [46, 46] then .ok place.dropLast
          else if maxName < name.length then .error .nameTooLong
          else .ok (place ++ [name])

def make (tree : FileTree) (path : Bytes) (node : Node) : Except PathFault FileTree :=
  match tree.entry path with
  | .error fault => .error fault
  | .ok place =>
      match tree.nodeAt? place with
      | some _ => .error .alreadyThere
      | none => .ok (tree.change place (some node))

def makeDirectory (tree : FileTree) (path : Bytes) : Except PathFault FileTree :=
  tree.make path (.directory .nil)

def openForWriting (tree : FileTree) (path : Bytes) : Except PathFault (Place × FileTree) :=
  match tree.startOf path with
  | .error fault => .error fault
  | .ok start =>
      match tree.landing maxLinks start (splitPath path) with
      | .error fault => .error fault
      | .ok place =>
          match tree.nodeAt? place with
          | some (.directory _) => .error .isDirectory
          | some _ => .ok (place, tree)
          | none => .ok (place, tree.change place (some (.file [] false)))

def contents (tree : FileTree) (place : Place) : Bytes :=
  match tree.nodeAt? place with
  | some (.file contents _) => contents
  | _ => []

def setContents (tree : FileTree) (place : Place) (contents : Bytes) : FileTree :=
  match tree.nodeAt? place with
  | some (.file _ executable) => tree.change place (some (.file contents executable))
  | _ => tree

def makeDirectories (tree : FileTree) (parts : List Bytes) : Except PathFault FileTree :=
  (List.range parts.length).foldlM
    (fun tree i =>
      let path := [(47 : UInt8)].intercalate (parts.take (i + 1))
      match tree.resolve (if path = [] then [47] else path) with
      | .ok (.directory _) => .ok tree
      | .ok _ => .error .alreadyThere
      | .error .notFound => tree.makeDirectory path
      | .error fault => .error fault)
    tree

-- Puts a node at a path, with the directories on the way. A file is made through a link in the last
-- place; nothing that is there is replaced.
def add (tree : FileTree) (path : Bytes) (node : Node) : FileTree :=
  let parts := trimmedParts path
  let under := (tree.makeDirectories parts.dropLast).toOption.getD tree
  let made :=
    match node with
    | .directory _ => under.makeDirectories parts
    | .link _ => under.make path node
    | _ => (under.openForWriting path).map Prod.snd
  made.toOption.getD under

def join (directory file : Bytes) : Bytes :=
  if directory = [] then file
  else if directory.getLast? = some 47 then directory ++ file
  else directory ++ 47 :: file

def toolNames : List String :=
  ["[", "base64", "basename", "cat", "chmod", "cmp", "cp", "cut", "dirname", "echo", "env", "expr",
    "false", "grep", "head", "id", "ln", "ls", "mkdir", "mv", "nice", "nohup", "od", "printenv",
    "printf", "pwd", "readlink", "realpath", "rev", "rm", "rmdir", "sed", "seq", "sleep", "sort",
    "tac", "tail", "tee", "test", "timeout", "touch", "tr", "true", "tty", "uname", "uniq", "wc",
    "which", "whoami", "xargs", "yes"]

def directoryOf (nodes : List (String × Node)) : Node :=
  .directory (nodes.foldl (fun entries (name, node) => entries.put (Utf8.encode name) node) .nil)

def system : FileTree :=
  let empty : Node := .file [] false
  let bin := directoryOf <|
    ["sh", "dash", "bash"].map (·, .program .shell)
      ++ toolNames.map fun name => (name, .program (.tool name))
  let root := [("bin", bin), ("usr", directoryOf [("bin", bin)]),
    ("etc", directoryOf [("passwd", empty), ("group", empty), ("hosts", empty),
      ("hostname", empty), ("resolv.conf", empty)]),
    ("dev", directoryOf [("null", .device)]),
    ("root", directoryOf []), ("var", directoryOf []), ("home", directoryOf []),
    ("proc", directoryOf [("version", empty), ("self", directoryOf [("exe", empty)])]),
    ("tmp", directoryOf [("work", directoryOf [])])]
  match directoryOf root with
  | .directory entries => ⟨entries, ["tmp", "work"].map Utf8.encode⟩
  | _ => ⟨.nil, []⟩

end FileTree

end ProxyTunnel
