/-!
Signals, and what a finished process leaves behind for its parent.
-/

set_option autoImplicit false

namespace ProxyTunnel

inductive SignalEffect where
  | terminates
  | dumps
  | ignored
  | stops
deriving DecidableEq, Repr

structure Signal where
  number : Nat
deriving DecidableEq, Repr, Inhabited

namespace Signal

def table : List (Nat × String × SignalEffect) :=
  [(1, "SIGHUP", .terminates), (2, "SIGINT", .terminates), (3, "SIGQUIT", .dumps),
    (4, "SIGILL", .dumps), (5, "SIGTRAP", .dumps), (6, "SIGABRT", .dumps), (7, "SIGBUS", .dumps),
    (8, "SIGFPE", .dumps), (9, "SIGKILL", .terminates), (10, "SIGUSR1", .terminates),
    (11, "SIGSEGV", .dumps), (12, "SIGUSR2", .terminates), (13, "SIGPIPE", .terminates),
    (14, "SIGALRM", .terminates), (15, "SIGTERM", .terminates), (16, "SIGSTKFLT", .terminates),
    (17, "SIGCHLD", .ignored), (18, "SIGCONT", .ignored), (19, "SIGSTOP", .stops),
    (20, "SIGTSTP", .stops), (21, "SIGTTIN", .stops), (22, "SIGTTOU", .stops),
    (23, "SIGURG", .ignored), (24, "SIGXCPU", .dumps), (25, "SIGXFSZ", .dumps),
    (26, "SIGVTALRM", .terminates), (27, "SIGPROF", .terminates), (28, "SIGWINCH", .ignored),
    (29, "SIGIO", .terminates), (30, "SIGPWR", .terminates), (31, "SIGSYS", .dumps)]

def hangup : Signal := ⟨1⟩

def interrupt : Signal := ⟨2⟩

def terminate : Signal := ⟨15⟩

def name? (s : Signal) : Option String := (table.find? (·.1 = s.number)).map (·.2.1)

def name (s : Signal) : String := s.name?.getD (toString s.number)

def effect (s : Signal) : SignalEffect :=
  ((table.find? (·.1 = s.number)).map (·.2.2)).getD .terminates

def farewells : List (Nat × String) :=
  [(1, "Hangup"), (2, "Interrupt"), (3, "Quit"), (4, "Illegal instruction"),
    (5, "Trace/breakpoint trap"), (6, "Aborted"), (7, "Bus error"), (8, "Floating point exception"),
    (9, "Killed"), (10, "User defined signal 1"), (11, "Segmentation fault"),
    (12, "User defined signal 2"), (13, "Broken pipe"), (14, "Alarm clock"), (15, "Terminated"),
    (16, "Stack fault"), (24, "CPU time limit exceeded"), (25, "File size limit exceeded"),
    (26, "Virtual timer expired"), (27, "Profiling timer expired"), (29, "I/O possible"),
    (30, "Power failure"), (31, "Bad system call")]

def firstRealTime : Nat := 34

def last : Nat := 64

def farewell (s : Signal) : String :=
  match farewells.lookup s.number with
  | some text => text
  | none => s!"Real-time signal {s.number - firstRealTime}"

def ofName? (name : String) : Option Signal := (table.find? (·.2.1 = name)).map fun e => ⟨e.1⟩

def ends (s : Signal) : Bool := s.effect = .terminates || s.effect = .dumps

end Signal

-- The status of a process that a parent has waited for, as the operating system encodes it: the low
-- seven bits tell how it ended, the next byte up is its exit code.
structure WaitStatus where
  bits : BitVec 32
deriving DecidableEq, Repr

namespace WaitStatus

def ofInt (raw : Int) : WaitStatus := ⟨BitVec.ofInt 32 raw⟩

-- The process ended by itself; only the low byte of its code is kept.
def exited (code : Nat) : WaitStatus := ⟨BitVec.ofNat 32 (code % 256 * 256)⟩

def killed (s : Signal) : WaitStatus := ⟨BitVec.ofNat 32 (s.number % 128)⟩

-- The low seven bits: zero after an exit, 127 for a process that has only stopped, and otherwise
-- the number of a signal.
def manner (w : WaitStatus) : Nat := w.bits.toNat % 128

def code? (w : WaitStatus) : Option Nat :=
  if w.manner = 0 then some (w.bits.toNat / 256 % 256) else none

def signal? (w : WaitStatus) : Option Signal :=
  if w.manner = 0 ∨ w.manner = 127 then none else some ⟨w.manner⟩

def exitCode (w : WaitStatus) : Nat :=
  match w.code? with
  | some code => code
  | none => 128 + (w.signal?.map (·.number)).getD 0

def text (w : WaitStatus) : String :=
  match w.code?, w.signal? with
  | some code, _ => s!"exit status: {code}"
  | none, some s =>
      let dumped := if w.bits.toNat / 128 % 2 = 1 then " (core dumped)" else ""
      let named := (s.name?.map fun name => s!" ({name})").getD ""
      s!"signal: {s.number}" ++ named ++ dumped
  | none, none => s!"stopped (not terminated) by signal: {w.bits.toNat / 256 % 256}"

end WaitStatus

end ProxyTunnel
