import ProxyTunnel.Child.Tool.Answer
import ProxyTunnel.Child.Tool.Dump
import ProxyTunnel.Child.Tool.Lines
import ProxyTunnel.Child.Tool.Sed
import ProxyTunnel.Child.Tool.Sequence

/-!
All tools by their names, and how one of them works in a world of open files.
-/

set_option autoImplicit false

namespace ProxyTunnel

namespace Tool

def act : String → Request → Act PUnit
  | "[" | "test" => test
  | "base64" => base64
  | "basename" => basename
  | "cat" => cat
  | "chmod" => chmod
  | "cmp" => cmp
  | "cp" => cp
  | "cut" => cut
  | "dirname" => dirname
  | "echo" => echo
  | "env" => env
  | "expr" => expr
  | "false" => fun _ => Act.setStatus 1
  | "grep" => grep
  | "head" => fun r => showParts r true
  | "id" => identity
  | "ln" => ln
  | "ls" => ls
  | "mkdir" => mkdir
  | "mv" => mv
  | "nice" => nice
  | "nohup" => nohup
  | "od" => od
  | "printenv" => printenv
  | "printf" => printf
  | "pwd" => pwd
  | "readlink" => readlink
  | "realpath" => realpath
  | "rev" => rev
  | "rm" => rm
  | "rmdir" => rmdir
  | "sed" => sed
  | "seq" => seq
  | "sleep" => sleep
  | "sort" => sort
  | "tac" => tac
  | "tail" => fun r => showParts r false
  | "tee" => tee
  | "timeout" => timeout
  | "touch" => touch
  | "tr" => tr
  | "tty" => fun _ => do
      Act.print "not a tty\n"
      Act.setStatus 1
  | "uname" => uname
  | "uniq" => uniq
  | "wc" => wc
  | "which" => which
  | "whoami" => fun _ => Act.print "root\n"
  | "xargs" => xargs
  | "yes" => yes
  | _ => fun _ => pure ()

def emit (s : Start) (w : World) (fd : Nat) (text : String) : Option World :=
  (s.descriptors.lookup fd).bind fun id => w.write id text

def inputOf (s : Start) (w : World) : Except PathFault String :=
  match s.descriptors.lookup 0 with
  | some id => w.remaining id
  | none => .error .badDescriptor

def inputIsFile (s : Start) (w : World) : Bool :=
  match (s.descriptors.lookup 0).bind fun id => w.files[id]? with
  | some ⟨.file _ _ _, _, _⟩ => true
  | _ => false

def drain (s : Start) (w : World) : World :=
  match s.descriptors.lookup 0, inputOf s w with
  | some id, .ok text => w.advance id text.length
  | _, _ => w

def publish (s : Start) (w : World) (written : List (Bool × String)) : World × Bool :=
  written.foldl
    (fun (w, all) (isComplaint, text) =>
      match emit s w (if isComplaint then 2 else 1) text with
      | some w => (w, all)
      | none => (w, all && (isComplaint || text = "")))
    (w, true)

-- What a tool has written, in the order in which it comes out: most tools keep back what is not a
-- complaint until they end.
def inOrder (tool : String) (written : List (Bool × String)) : List (Bool × String) :=
  if tool = "cat" ∨ tool = "tee" then written
  else written.filter (·.1) ++ written.filter fun (isComplaint, _) => !isComplaint

def unwritable : String → String × Nat
  | "cat" => ("standard output", 1)
  | "grep" | "ls" => ("write error", 2)
  | "sort" => ("write failed: 'standard output'", 2)
  | _ => ("write error", 1)

def refuse (tool : String) (s : Start) (w : World) : World × Ending :=
  let (place, status) := unwritable tool
  let complaint := s.name ++ ": " ++ place ++ ": Bad file descriptor\n"
  ((emit s w 2 complaint).getD w, .status status)

-- Runs a tool, which ends in some way. A tool that passes on its input looks first whether it can
-- write at all.
def run (tool : String) (s : Start) (w : World) : World × Ending :=
  if tool = "cat" ∧ (emit s w 1 "").isNone then refuse tool s w
  else
    let r : Request := ⟨s.name, s.arguments, s.env, inputOf s w, inputIsFile s w⟩
    let (result, work) := (act tool r).run.run ⟨w.tree, [], 0, false⟩
    let w := { w with tree := work.tree }
    let w := if work.consumed then drain s w else w
    let (w, all) := publish s w (inOrder tool work.written.reverse)
    match result with
    | .error ending => (w, ending)
    | .ok () => if all then (w, .status work.status) else refuse tool s w

end Tool

end ProxyTunnel
