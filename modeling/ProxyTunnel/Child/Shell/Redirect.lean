import ProxyTunnel.Child.Shell.Expansion

/-!
Redirections: where descriptors lead while a command runs.
-/

set_option autoImplicit false

namespace ProxyTunnel.Shell.Redirect

structure Opening where
  fd : Nat
  direction : Direction
  target : String

def isDescriptor (text : String) : Bool :=
  match text.toList with
  | [c] => c.isDigit || c == '-'
  | _ => false

def expand (e : Engine) (r : Redirection) : Run Opening := do
  match r with
  | .mk fd direction target =>
      let text ← Expansion.whole e target
      if direction = .duplicate && !isDescriptor text then
        modify fun sh => { sh with line := sh.reading }
        Run.fail "Syntax error: Bad fd number"
      else return ⟨fd, direction, text⟩

def lead (fd id : Nat) : Run PUnit :=
  modify fun sh =>
    { sh with descriptors := (fd, id) :: sh.descriptors.filter fun (n, _) => n ≠ fd }

def close (fd : Nat) : Run PUnit :=
  modify fun sh => { sh with descriptors := sh.descriptors.filter fun (n, _) => n ≠ fd }

def leadToNew (fd : Nat) (file : OpenFile) : Run PUnit := do
  let sh ← get
  let (id, world) := sh.world.addFile file
  set { sh with world }
  lead fd id

def streamAt (tree : FileTree) (place : Place) (appending : Bool) : Stream :=
  match tree.nodeAt? place with
  | some (.directory _) => .directory
  | some (.file contents _) => .file place (if appending then contents.length else 0) appending
  | _ => .nothing

def cannot {α : Type} (deed path : String) (fault : PathFault) (missing : String) : Run α :=
  let reason := if fault = .notFound ∨ fault = .notDirectory then missing else fault.text
  Run.fail ("cannot " ++ deed ++ " " ++ path ++ ": " ++ reason)

def openInput (fd : Nat) (path : String) : Run PUnit := do
  let tree := (← get).world.tree
  match tree.resolve (Raw.toBytes path), tree.place (Raw.toBytes path) with
  | .ok _, .ok place => leadToNew fd ⟨streamAt tree place false, true, false⟩
  | .error fault, _ | _, .error fault => cannot "open" path fault "No such file"

def openOutput (fd : Nat) (path : String) (emptied appending readable : Bool) : Run PUnit := do
  let sh ← get
  match sh.world.tree.openForWriting (Raw.toBytes path) with
  | .error fault => cannot "create" path fault "Directory nonexistent"
  | .ok (place, tree) =>
      let tree := if emptied then tree.setContents place [] else tree
      set { sh with world := { sh.world with tree } }
      leadToNew fd ⟨streamAt tree place appending, readable, true⟩

-- Lets a descriptor lead to where another one leads. It is closed first, so that nothing can be
-- said on it about a failure.
def duplicate (fd : Nat) (target : String) : Run PUnit := do
  match target.toList with
  | ['-'] => close fd
  | [c] =>
      let other := c.toNat - '0'.toNat
      match (← get).descriptors.lookup other with
      | some id => lead fd id
      | none =>
          if other ≠ fd then
            close fd
            Run.fail (target ++ ": Bad file descriptor")
          else return ()
  | _ => return ()

def isTaken (path : String) : Run Bool := do
  return (← get).world.tree.isFile (Raw.toBytes path)

def openFile (o : Opening) : Run PUnit := do
  match o.direction with
  | .input => openInput o.fd o.target
  | .output =>
      if (← get).options.contains 'C' && (← isTaken o.target) then
        Run.fail ("cannot create " ++ o.target ++ ": File exists")
      openOutput o.fd o.target true false false
  | .replacement => openOutput o.fd o.target true false false
  | .append => openOutput o.fd o.target false true false
  | .inputOutput => openOutput o.fd o.target false false true
  | .duplicate => duplicate o.fd o.target
  | .text => leadToNew o.fd ⟨.pipe o.target 0, true, false⟩

def apply (o : Opening) : Run PUnit := do
  match if o.direction = .text then none else World.standardFd? o.target with
  | some other =>
      match (← get).descriptors.lookup other with
      | some id => lead o.fd id
      | none => openFile o
  | none => openFile o

def restoring {α : Type} (body : Run α) : Run α := fun sh =>
  let (result, after) := body sh
  (result, { after with descriptors := sh.descriptors })

end ProxyTunnel.Shell.Redirect
