import ProxyTunnel.Child.FileCheck
import ProxyTunnel.Child.Tool.Basic

/-!
The tools that make, move, remove and list files.
-/

set_option autoImplicit false

namespace ProxyTunnel.Tool

-- The part of a path behind its last slash, slashes at the end apart; a path of slashes only is
-- itself one.
def baseName (path : String) : String :=
  let trimmed := (path.toList.reverse.dropWhile (· = '/')).reverse
  if trimmed.isEmpty then (if path = "" then "" else "/")
  else String.ofList (trimmed.reverse.takeWhile (· ≠ '/')).reverse

def directoryName (path : String) : String :=
  let trimmed := path.toList.reverse.dropWhile (· = '/')
  let above := trimmed.dropWhile (· ≠ '/')
  match above.dropWhile (· = '/') with
  | [] => if (path.toList.head? == some '/') then "/" else "."
  | above => String.ofList above.reverse

def below (directory name : String) : String :=
  if directory.toList.getLast? = some '/' then directory ++ name else directory ++ "/" ++ name

def mkdir (r : Request) : Act PUnit := do
  let long := [("parents", 'p'), ("verbose", 'v'), ("mode", 'm')]
  let o ← Act.options r (Options.form "pvZ" "m" long) 1
  if o.operands.isEmpty then Act.misuse r "missing operand" 1
  for path in o.operands do
    let tree ← Act.tree
    let made :=
      if o.has 'p' then tree.makeDirectories (FileTree.trimmedParts (Raw.toBytes path))
      else tree.makeDirectory (Raw.toBytes path)
    match made with
    | .ok tree =>
        Act.setTree tree
        if o.has 'v' then Act.print (r.name ++ ": created directory " ++ quote path ++ "\n")
    | .error fault =>
        Act.complain r ("cannot create directory " ++ cite path ++ ": " ++ fault.text) 1

def removeDirectory (tree : FileTree) (path : Bytes) : Except PathFault FileTree :=
  match tree.entry path with
  | .error fault => .error fault
  | .ok place =>
      match tree.nodeAt? place with
      | none => .error .notFound
      | some (.directory .nil) => .ok (tree.change place none)
      | some (.directory _) => .error .notEmpty
      | some _ => .error .notDirectory

def rmdir (r : Request) : Act PUnit := do
  let long := [("parents", 'p'), ("ignore-fail-on-non-empty", 'v')]
  let o ← Act.options r (Options.form "pv" "" long) 1
  if o.operands.isEmpty then Act.misuse r "missing operand" 1
  for path in o.operands do
    match removeDirectory (← Act.tree) (Raw.toBytes path) with
    | .ok tree => Act.setTree tree
    | .error fault => Act.complain r ("failed to remove " ++ quote path ++ ": " ++ fault.text) 1

def nodeAt (tree : FileTree) (path : String) : Except PathFault (Place × Node) :=
  match tree.entry (Raw.toBytes path) with
  | .error fault => .error fault
  | .ok place =>
      match tree.nodeAt? place with
      | none => .error .notFound
      | some node => .ok (place, node)

def rm (r : Request) : Act PUnit := do
  let long := [("recursive", 'r'), ("force", 'f'), ("dir", 'd'), ("verbose", 'v')]
  let o ← Act.options r (Options.form "rRfdivI" "" long) 1
  if o.operands.isEmpty && !o.has 'f' then Act.misuse r "missing operand" 1
  for path in o.operands do
    let tree ← Act.tree
    let refuse (text : String) : Act PUnit :=
      Act.complain r ("cannot remove " ++ quote path ++ ": " ++ text) 1
    let name := baseName path
    match nodeAt tree path with
    | .error fault =>
        if !(o.has 'f' && (fault = .notFound || fault = .notDirectory)) then refuse fault.text
    | .ok (place, .directory entries) =>
        if o.has 'r' || o.has 'R' || (o.has 'd' && entries.names.isEmpty) then
          if name = "." || name = ".." then
            Act.complain r ("refusing to remove '.' or '..' directory: skipping " ++ quote path) 1
          else Act.setTree (tree.change place none)
        else if o.has 'd' then refuse PathFault.notEmpty.text
        else refuse PathFault.isDirectory.text
    | .ok (place, _) =>
        if path.toList.getLast? = some '/' then refuse PathFault.notDirectory.text
        else Act.setTree (tree.change place none)

def destination (tree : FileTree) (target source : String) : String :=
  if FileCheck.holds tree 'd' target then below target (baseName source) else target

def sourcesAndTarget (r : Request) (o : Options) : Act (List String × String) := do
  match o.operands, o.value? 't' with
  | [], _ => Act.misuse r "missing file operand" 1
  | sources, some target => return (sources, target)
  | [only], none => Act.misuse r ("missing destination file operand after " ++ cite only) 1
  | operands, none =>
      let target := operands.getLastD ""
      let sources := operands.dropLast
      if 1 < sources.length then
        match (← Act.tree).resolve (Raw.toBytes target) with
        | .ok (.directory _) => return (sources, target)
        | .ok _ => Act.fail r ("target " ++ quote target ++ ": Not a directory") 1
        | .error fault => Act.fail r ("target " ++ quote target ++ ": " ++ fault.text) 1
      else return (sources, target)

def putCopy (r : Request) (source target : String) (node : Node) : Act PUnit := do
  let tree ← Act.tree
  let refuse (text : String) : Act PUnit :=
    Act.complain r ("cannot create regular file " ++ quote target ++ ": " ++ text) 1
  match node with
  | .directory entries =>
      match nodeAt tree target with
      | .ok (place, .directory old) =>
          let merged := entries.names.foldl
            (fun all name => ((entries.get? name).map (all.put name)).getD all) old
          Act.setTree (tree.change place (some (.directory merged)))
      | .ok _ =>
          Act.complain r ("cannot overwrite non-directory " ++ quote target ++ " with directory "
            ++ quote source) 1
      | .error _ =>
          match tree.make (Raw.toBytes target) node with
          | .ok tree => Act.setTree tree
          | .error fault =>
              Act.complain r ("cannot create directory " ++ quote target ++ ": " ++ fault.text) 1
  | node =>
      let contents :=
        match node with
        | .file contents executable => (contents, executable)
        | _ => ([], false)
      let isNew := (tree.resolve (Raw.toBytes target)).toOption.isNone
      match tree.openForWriting (Raw.toBytes target) with
      | .error .isDirectory =>
          refuse (if target.toList.getLast? = some '/' then PathFault.notDirectory.text
            else PathFault.isDirectory.text)
      | .error fault => refuse fault.text
      | .ok (place, tree) =>
          let tree := tree.setContents place contents.1
          if isNew then
            let node :=
              match node with
              | .program p => Node.program p
              | _ => .file contents.1 contents.2
            Act.setTree (tree.change place (some node))
          else Act.setTree tree

def cp (r : Request) : Act PUnit := do
  let o ← Act.options r (Options.form "rRafpvdPLTnu" "t" [("recursive", 'r'), ("archive", 'a'),
    ("force", 'f'), ("target-directory", 't')]) 1
  let (sources, target) ← sourcesAndTarget r o
  let deep := o.has 'r' || o.has 'R' || o.has 'a'
  for source in sources do
    let tree ← Act.tree
    let found : Except PathFault Node :=
      if deep then (nodeAt tree source).map (·.2) else tree.resolve (Raw.toBytes source)
    match found with
    | .error fault => Act.complain r ("cannot stat " ++ quote source ++ ": " ++ fault.text) 1
    | .ok node =>
        let isDirectory := node matches .directory _
        let path := destination tree target source
        if isDirectory && !deep then
          Act.complain r ("-r not specified; omitting directory " ++ quote source) 1
        else if FileCheck.same tree source path then
          Act.complain r (quote source ++ " and " ++ quote path ++ " are the same file") 1
        else
          match node with
          | .link _ =>
              match tree.make (Raw.toBytes path) node with
              | .ok tree => Act.setTree tree
              | .error fault =>
                  Act.complain r ("cannot create symbolic link " ++ quote path ++ ": "
                    ++ fault.text) 1
          | _ => putCopy r source path node

def mv (r : Request) : Act PUnit := do
  let o ← Act.options r (Options.form "fnvTu" "t" [("force", 'f'), ("target-directory", 't')]) 1
  let (sources, target) ← sourcesAndTarget r o
  for source in sources do
    let tree ← Act.tree
    match nodeAt tree source with
    | .error fault => Act.complain r ("cannot stat " ++ quote source ++ ": " ++ fault.text) 1
    | .ok (place, node) =>
        let path := destination tree target source
        let refuse (text : String) : Act PUnit :=
          Act.complain r ("cannot move " ++ quote source ++ " to " ++ quote path ++ ": " ++ text) 1
        match tree.entry (Raw.toBytes path) with
        | .error fault => refuse fault.text
        | .ok goal =>
            let isDirectory := node matches .directory _
            if goal = place then
              Act.complain r (quote source ++ " and " ++ quote path ++ " are the same file") 1
            else if isDirectory && place.isPrefixOf goal then
              Act.complain r ("cannot move " ++ quote source ++ " to a subdirectory of itself, "
                ++ quote path) 1
            else
              match tree.nodeAt? goal, isDirectory with
              | some (.directory .nil), true | none, true =>
                  Act.setTree ((tree.change place none).change goal (some node))
              | some (.directory _), true => refuse PathFault.notEmpty.text
              | some (.directory _), false =>
                  Act.complain r ("cannot overwrite directory " ++ quote path
                    ++ " with non-directory") 1
              | some _, true =>
                  Act.complain r ("cannot overwrite non-directory " ++ quote path
                    ++ " with directory " ++ quote source) 1
              | _, false =>
                  if path.toList.getLast? = some '/' then refuse PathFault.notDirectory.text
                  else if o.has 'n' && (tree.nodeAt? goal).isSome then pure ()
                  else Act.setTree ((tree.change place none).change goal (some node))

def ln (r : Request) : Act PUnit := do
  let o ← Act.options r (Options.form "sfnvTrLP" "t" [("symbolic", 's'), ("force", 'f'),
    ("no-dereference", 'n')]) 1
  let (targets, last) ← do
    match o.operands, o.value? 't' with
    | [], _ => Act.misuse r "missing file operand" 1
    | targets, some last => pure (targets, last)
    | [only], none => pure ([only], ".")
    | operands, none => pure (operands.dropLast, operands.getLastD "")
  let kind := if o.has 's' then "symbolic link " else "hard link "
  for target in targets do
    let tree ← Act.tree
    let isLink := FileCheck.holds tree 'L' last
    let path :=
      if (o.has 'n' && isLink) || o.has 'T' then last else destination tree last target
    let node : Except PathFault Node :=
      if o.has 's' then .ok (.link (Raw.toBytes target)) else (nodeAt tree target).map (·.2)
    match node with
    | .error fault => Act.complain r ("failed to access " ++ quote target ++ ": " ++ fault.text) 1
    | .ok (.directory _) =>
        Act.complain r (quote target ++ ": hard link not allowed for directory") 1
    | .ok node =>
        let tree :=
          if o.has 'f' then
            match nodeAt tree path with
            | .ok (_, .directory _) | .error _ => tree
            | .ok (place, _) => tree.change place none
          else tree
        match if target = "" then .error .notFound else tree.make (Raw.toBytes path) node with
        | .ok tree => Act.setTree tree
        | .error fault =>
            let pointer := if o.has 's' || fault = .alreadyThere then "" else " => " ++ quote target
            Act.complain r ("failed to create " ++ kind ++ quote path ++ pointer ++ ": "
              ++ fault.text) 1

def touch (r : Request) : Act PUnit := do
  let o ← Act.options r (Options.form "acmhf" "drt" [("no-create", 'c'), ("date", 'd')]) 1
  if o.operands.isEmpty then Act.misuse r "missing file operand" 1
  for path in o.operands do
    let tree ← Act.tree
    match tree.openForWriting (Raw.toBytes path) with
    | .ok (_, changed) => if !o.has 'c' then Act.setTree changed
    | .error fault =>
        match fault, tree.resolve (Raw.toBytes path) with
        | .isDirectory, .ok _ => pure ()
        | .isDirectory, .error fault | fault, _ =>
            if !(o.has 'c' && fault = .notFound) then
              Act.complain r ("cannot touch " ++ quote path ++ ": " ++ fault.text) 1

def modeChange? (mode : String) : Option (Bool → Bool) :=
  let cs := mode.toList
  if cs ≠ [] && cs.all (fun c => '0' ≤ c && c ≤ '7') && cs.length ≤ 5 then
    some fun _ => cs.any fun c => (c.toNat - 48) % 2 = 1
  else
    (Raw.splitAt ',' mode).foldl
      (fun change part =>
        let rest := part.toList.dropWhile fun c => "ugoa".toList.contains c
        match change, rest with
        | some change, sign :: letters =>
            if "+-=".toList.contains sign && letters.all (fun c => "rwxXst".toList.contains c) then
              let marked := letters.contains 'x'
              some fun old =>
                let old := change old
                if sign = '+' then old || marked
                else if sign = '-' then old && !marked
                else marked
            else none
        | _, _ => none)
      (some id)

def chmod (r : Request) : Act PUnit := do
  let isMode (a : String) : Bool := Raw.begins a "-" && (modeChange? a).isSome
  let r' := { r with arguments := r.arguments.filter (!isMode ·) }
  let o ← Act.options r' (Options.form "Rvfc" "" [("recursive", 'R'), ("reference", 'v')]) 1
  let operands := r.arguments.filter isMode ++ o.operands
  match operands with
  | [] => Act.misuse r "missing operand" 1
  | [mode] => Act.misuse r ("missing operand after " ++ cite mode) 1
  | mode :: paths =>
      match modeChange? mode with
      | none => Act.misuse r ("invalid mode: " ++ cite mode) 1
      | some change =>
          for path in paths do
            let tree ← Act.tree
            match tree.place (Raw.toBytes path) with
            | .error fault =>
                Act.complain r ("cannot access " ++ quote path ++ ": " ++ fault.text) 1
            | .ok place =>
                match tree.nodeAt? place with
                | some (.file contents old) =>
                    Act.setTree (tree.change place (some (.file contents (change old))))
                | _ => pure ()

def listed (o : Options) (entries : Entries) : List String :=
  let names := (entries.names.map Raw.ofBytes).mergeSort fun a b => decide (a ≤ b)
  let names :=
    if o.has 'a' then "." :: ".." :: names
    else if o.has 'A' then names
    else names.filter fun name => name.toList.head? ≠ some '.'
  if o.has 'r' then names.reverse else names

def ls (r : Request) : Act PUnit := do
  let o ← Act.options r (Options.form "aA1drRlhtFpCiskLqxgn" "" [("all", 'a'), ("almost-all", 'A'),
    ("directory", 'd'), ("reverse", 'r')]) 2
  let tree ← Act.tree
  let paths := if o.operands.isEmpty then ["."] else o.operands
  let find (path : String) : Except PathFault Node := tree.resolve (Raw.toBytes path)
  for path in paths do
    if let .error fault := find path then
      if !FileCheck.holds tree 'L' path then
        Act.complain r ("cannot access " ++ quote path ++ ": " ++ fault.text) 2
  let mut files := []
  let mut directories := []
  for path in paths.mergeSort fun a b => decide (a ≤ b) do
    match find path, o.has 'd' with
    | .ok (.directory entries), false => directories := directories ++ [(path, entries)]
    | .ok _, _ => files := files ++ [path]
    | .error _, _ => if FileCheck.holds tree 'L' path then files := files ++ [path]
  for path in files do
    Act.print (path ++ "\n")
  let titled := 1 < paths.length
  let mut first := files.isEmpty
  for (path, entries) in directories do
    if titled then
      Act.print ((if first then "" else "\n") ++ path ++ ":\n")
    first := false
    for name in listed o entries do
      Act.print (name ++ "\n")

def pathOf (place : Place) : String :=
  if place.isEmpty then "/" else String.join (place.map fun name => "/" ++ Raw.ofBytes name)

-- The path without links that leads to the same place; the last name need not be taken.
def canonical (tree : FileTree) (strict : Bool) (path : String) : Except PathFault String :=
  let bytes := Raw.toBytes path
  match tree.place bytes with
  | .ok place => .ok (pathOf place)
  | .error fault =>
      if strict then .error fault
      else
        match tree.startOf bytes with
        | .error fault => .error fault
        | .ok start =>
            (tree.landing FileTree.maxLinks start (FileTree.trimmedParts bytes)).map pathOf

def readlink (r : Request) : Act PUnit := do
  let o ← Act.options r (Options.form "femnqsvz" "" [("canonicalize", 'f'), ("no-newline", 'n')]) 1
  if o.operands.isEmpty then Act.misuse r "missing operand" 1
  let feed := if o.has 'n' && o.operands.length = 1 then "" else "\n"
  for path in o.operands do
    let tree ← Act.tree
    if o.has 'f' || o.has 'e' || o.has 'm' then
      match canonical tree (o.has 'e') path with
      | .ok text => Act.print (text ++ feed)
      | .error _ => Act.setStatus 1
    else
      match nodeAt tree path with
      | .ok (_, .link target) => Act.print (Raw.ofBytes target ++ feed)
      | _ => Act.setStatus 1

def realpath (r : Request) : Act PUnit := do
  let o ← Act.options r (Options.form "emsqzLP" "" [("canonicalize-existing", 'e')]) 1
  if o.operands.isEmpty then Act.misuse r "missing operand" 1
  for path in o.operands do
    match canonical (← Act.tree) (o.has 'e') path with
    | .ok text => Act.print (text ++ "\n")
    | .error fault => Act.complain r (quoteIfNeeded path ++ ": " ++ fault.text) 1

end ProxyTunnel.Tool
