import ProxyTunnel.Diagnostics
import ProxyTunnel.Network.Reach
import ProxyTunnel.Proxy.Target

/-!
The host program's view of the network: its own descriptor, the one socket that the tunnel may open,
the clock, the answers that native calls will give, and a record of every call made. Each native
call is a function from one state to the next.
-/

set_option autoImplicit false

namespace ProxyTunnel

structure Network where
  -- Nanoseconds since the clock of the system started.
  clock : Nat
  callerNumber : Int
  caller : Option Endpoint
  engine : Option Endpoint
  reach : Reach
  resolver : Resolver
  -- The proxy that the next successful connect of a stream socket reaches.
  proxy : Option ProxyScript
  -- Why the process can have no further socket, if it can not.
  refusal : Option Errno
  -- Whether the process may have no descriptor at all, so that waiting under a deadline is refused.
  barred : Bool
  -- What the last call that failed has left. Reads are not counted.
  errno : Errno
  calls : List NativeCall
  remarks : List Remark
deriving Repr

namespace Network

def fdName (n : Network) : Holder → String
  | .caller => toString n.callerNumber
  | .engine => "OWNED"

def endpoint (n : Network) : Holder → Option Endpoint
  | .caller => n.caller
  | .engine => n.engine

def setEndpoint (n : Network) (fd : Holder) (e : Option Endpoint) : Network :=
  match fd with
  | .caller => { n with caller := e }
  | .engine => { n with engine := e }

def record (n : Network) (call : NativeCall) : Network := { n with calls := n.calls ++ [call] }

def say (n : Network) (remarks : List Remark) : Network :=
  { n with remarks := n.remarks ++ remarks }

def remark (n : Network) (level : Level) (speaker : Component) (text : String) : Network :=
  n.say [⟨level, speaker, text⟩]

def received (n : Network) : Bytes :=
  (n.calls.map fun
    | .sent _ bytes _ => bytes
    | _ => []).flatten

-- The first time that the clock of the system cannot show.
def clockEnd : Nat := Nat.pow 2 63 * Duration.nanosPerSecond

-- Whether a wait that begins now would end when the clock cannot show it any more.
def overruns (n : Network) (budget : Option Duration) : Bool :=
  budget.any fun b => clockEnd ≤ n.clock + b.nanos

def leave (n : Network) (cause : Errno) : Network := { n with errno := cause }

def fail {α : Type} (n : Network) (cause : Errno) : Except Errno α × Network :=
  (.error cause, n.leave cause)

-- A socket of the tunnel's own. As on Linux, it is opened with close-on-exec set.
def openSocket (n : Network) : Except Errno Unit × Network :=
  match n.refusal with
  | some cause => n.fail cause
  | none =>
      let n := { n with engine := some (.fresh .stream .none true) }
      (.ok (), n.record (.opened true))

def close (n : Network) (fd : Holder) : Network := (n.setEndpoint fd none).record (.closed fd)

def attachProxy (n : Network) (fd : Holder) : Network :=
  match n.proxy, n.endpoint fd with
  | some script, some e =>
      if e.kind.isStream then
        { n.setEndpoint fd (some (e.attach script n.clock)) with proxy := none }
      else n
  | _, _ => n

def connect (n : Network) (fd : Holder) (address : SocketAddress) :
    ConnectOutcome × Network :=
  let e := n.endpoint fd
  let n := n.record (.connected fd address (e.map (·.flags)) ((e.map (·.closeOnExec)).getD false))
  let (outcome, reach) := n.reach.dial (e.map (·.kind)) address
  let n := { n with reach }
  if outcome.rc < 0 then (outcome, n.leave outcome.cause) else (outcome, n.attachProxy fd)

def getFlags (n : Network) (fd : Holder) : Except Errno StatusFlags :=
  match n.endpoint fd with
  | none => .error .EBADF
  | some e => .ok e.flags

def setFlags (n : Network) (fd : Holder) (flags : StatusFlags) : Except Errno Unit × Network :=
  match n.endpoint fd with
  | none => n.fail .EBADF
  | some e => (.ok (), n.setEndpoint fd (some { e with flags }))

-- Sends all bytes, unless a send fails for good. There is no result if sends are interrupted for
-- ever.
def sendAll (n : Network) (fd : Holder) (bytes : Bytes) : Option (Except Errno Unit) × Network :=
  match n.endpoint fd with
  | none => if bytes = [] then (some (.ok ()), n) else (some (.error .EBADF), n.leave .EBADF)
  | some e =>
      let t := transmit e.outbound.standing e.outbound.outcomes bytes
      let e := { e with outbound := { e.outbound with outcomes := t.rest } }
      let n := (n.setEndpoint fd (some e)).record (.sent fd t.taken e.flags)
      match t.failure with
      | none => (some (.ok ()), n)
      | some .EINTR => (none, n.leave .EINTR)
      | some cause => (some (.error cause), n.leave cause)

def patience (n : Network) (e : Endpoint) (deadline : Option Nat) : Patience :=
  ⟨deadline, !e.flags.contains .nonblock, n.barred, e.inbound.ending = .lapses⟩

-- Reads a head. There is none if the reading comes to a wait that never ends.
def readHead (n : Network) (fd : Holder) (deadline : Option Nat) : Option Head × Network :=
  match n.endpoint fd with
  | none => (some ⟨[], [], .readError .uncategorized⟩, n)
  | some e =>
      let p := n.patience e deadline
      let (head, clock, inbound) := e.inbound.readHead p n.clock
      let m := n.setEndpoint fd (some (e.afterRead inbound))
      (if e.inbound.stalls p n.clock then none else some head,
        { m.record (.received fd e.flags) with clock })

-- One read of up to `size` bytes. On a descriptor that is not open a number below zero is never
-- ready, any other is found closed at once.
def readSome (n : Network) (fd : Holder) (deadline : Option Nat) (size : Nat) :
    Option (Except ReadFailure Bytes) × Network :=
  match n.endpoint fd with
  | none =>
      let ready := if n.callerNumber < 0 ∧ deadline ≠ none then none else some n.clock
      match (Patience.mk deadline true n.barred false).await n.clock ready with
      | (.never, clock) => (none, { n with clock })
      | (.failed failure, clock) => (some (.error failure), { n with clock })
      | (.ready, clock) => (some (.error .uncategorized), { n with clock })
  | some e =>
      let (result, clock, inbound) := e.inbound.readSome (n.patience e deadline) n.clock size
      let n := n.setEndpoint fd (some (e.afterRead inbound))
      (result, { n.record (.received fd e.flags) with clock })

def lookup (n : Network) (question : Lookup) : Int × Network :=
  let (code, resolver) := n.resolver.answer question
  (code, { n.record (.lookedUp question n.engine.isSome) with resolver })

def lastLookup? (n : Network) : Option Lookup :=
  (n.calls.filterMap fun
    | .lookedUp question _ => some question
    | _ => none).getLast?

def found (n : Network) : List (IpAddress × Nat) :=
  match n.lastLookup?.map Numeric.lookup with
  | some (.ok found) => found
  | _ => []

-- The native reverse lookup, for which the system has an answer: each text is written if it is
-- shorter than its buffer.
def nameInfo (n : Network) (system : NameAnswer) (question : NameQuery) : NameAnswer × Network :=
  let fitting (text : Bytes) (size : Nat) : Bytes := if text.length < size then text else []
  (⟨system.rc, fitting system.host question.hostSize, fitting system.service question.serviceSize⟩,
    n.record (.named question))

end Network

end ProxyTunnel
