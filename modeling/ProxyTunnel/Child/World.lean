import ProxyTunnel.Child.Signal
import ProxyTunnel.Environment
import ProxyTunnel.FileTree
import ProxyTunnel.Text.Decimal
import ProxyTunnel.Text.Raw

/-!
What processes share: the files, what is open, and the signals under way. Time does not pass, and a
process runs to its end before another one goes on.
-/

set_option autoImplicit false

namespace ProxyTunnel

inductive Stream where
  -- A text that grows at its end; its first part has been taken.
  | pipe (text : String) (taken : Nat)
  | nothing
  | directory
  | file (place : Place) (position : Nat) (appending : Bool)

structure OpenFile where
  stream : Stream
  readable : Bool
  writable : Bool

structure Start where
  pid : Nat
  parent : Nat
  name : String
  arguments : List String
  env : Environment
  descriptors : List (Nat × Nat)
  -- The signals to which the process pays no attention.
  ignored : List Nat

structure World where
  tree : FileTree
  files : Array OpenFile
  -- Signals that have been sent, with the process that each is for.
  pending : List (Nat × Signal)
  interrupts : Nat
  -- The signal with which the launcher answers an interrupt.
  answer : Signal
  nextPid : Nat
  -- The processes that are at work or have not been waited for.
  alive : List Nat

namespace World

def launcherPid : Nat := 1

def childPid : Nat := 2

def pipe : OpenFile := ⟨.pipe "" 0, true, true⟩

def nowhere : Nat := 0

def stdout : Nat := 1

def stderr : Nat := 2

def start (tree : FileTree) (answer : Signal) : World :=
  ⟨tree, #[⟨.nothing, true, true⟩, pipe, pipe], [], 0, answer, childPid + 1,
    [launcherPid, childPid]⟩

def addFile (w : World) (file : OpenFile) : Nat × World :=
  (w.files.size, { w with files := w.files.push file })

def standardFd? (path : String) : Option Nat :=
  match path with
  | "/dev/stdin" => some 0
  | "/dev/stdout" => some 1
  | "/dev/stderr" => some 2
  | _ =>
      ["/dev/fd/", "/proc/self/fd/"].findSome? fun front =>
        if Raw.begins path front then Decimal.read? ((Raw.drop path front.length).toList) else none

def overwritten (contents : Bytes) (position : Nat) (text : Bytes) : Bytes :=
  contents.take position ++ List.replicate (position - contents.length) 0 ++ text
    ++ contents.drop (position + text.length)

def write (w : World) (id : Nat) (text : String) : Option World :=
  match w.files[id]? with
  | none => none
  | some file =>
      if !file.writable then none
      else
        match file.stream with
        | .nothing | .directory => some w
        | .pipe .. =>
            let extend (file : OpenFile) : OpenFile :=
              match file with
              | ⟨.pipe old taken, r, wr⟩ => ⟨.pipe (old ++ text) taken, r, wr⟩
              | other => other
            some { w with files := w.files.modify id extend }
        | .file place position appending =>
            let contents := w.tree.contents place
            let position := if appending then contents.length else position
            let bytes := Raw.toBytes text
            let file := { file with stream := .file place (position + bytes.length) appending }
            some { w with
              tree := w.tree.setContents place (overwritten contents position bytes)
              files := w.files.set! id file }

def remaining (w : World) (id : Nat) : Except PathFault String :=
  match w.files[id]? with
  | none => .error .badDescriptor
  | some file =>
      if !file.readable then .error .badDescriptor
      else
        match file.stream with
        | .nothing => .ok ""
        | .directory => .error .isDirectory
        | .pipe text taken => .ok (Raw.drop text taken)
        | .file place position _ => .ok (Raw.ofBytes ((w.tree.contents place).drop position))

def advance (w : World) (id count : Nat) : World :=
  let moved (file : OpenFile) : OpenFile :=
    match file.stream with
    | .pipe text taken => { file with stream := .pipe text (taken + count) }
    | .file place position appending =>
        { file with stream := .file place (position + count) appending }
    | _ => file
  { w with files := w.files.modify id moved }

def written (w : World) (id : Nat) : String :=
  match w.files[id]? with
  | some ⟨.pipe text _, _, _⟩ => text
  | _ => ""

-- Sends a signal to a process, and says whether there is one of that number. The launcher answers
-- an interrupt with a signal to the process that it has started.
def send (w : World) (s : Signal) (pid : Nat) : Bool × World :=
  if !w.alive.contains pid then (false, w)
  else if s.number = 0 then (true, w)
  else if pid = launcherPid then
    if s = .interrupt then
      (true, { w with
        interrupts := w.interrupts + 1
        pending := w.pending ++ [(childPid, w.answer)] })
    else (true, w)
  else (true, { w with pending := w.pending ++ [(pid, s)] })

def collect (w : World) (pid : Nat) : List Signal × World :=
  let (own, others) := w.pending.partition fun (p, _) => p = pid
  (own.map (·.2), { w with pending := others })

def newProcess (w : World) : Nat × World :=
  (w.nextPid, { w with nextPid := w.nextPid + 1, alive := w.nextPid :: w.alive })

def reap (w : World) (pid : Nat) : World := { w with alive := w.alive.filter (· ≠ pid) }

end World

end ProxyTunnel
