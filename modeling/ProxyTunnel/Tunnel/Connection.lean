import ProxyTunnel.Proxy.Request
import ProxyTunnel.Tunnel.Blocking

/-!
One connection to the proxy. It opens a socket of its own when one is needed, or works on a
descriptor of the host program; it connects at most once, and carries one exchange after another.
-/

set_option autoImplicit false

namespace ProxyTunnel

structure Connection where
  target : Target
  -- How long a response may take in all.
  budget : Option Duration
  holder : Option Holder
  connected : Bool
  -- When the response to the last request is overdue.
  deadline : Option Nat
deriving DecidableEq, Repr

def Connection.owned (target : Target) (budget : Option Duration) : Connection :=
  ⟨target, budget, none, false, none⟩

def Connection.borrowed (target : Target) (budget : Option Duration) : Connection :=
  ⟨target, budget, some .caller, false, none⟩

def Connection.owns (c : Connection) : Bool := c.holder == some .engine

structure Session where
  conn : Connection
  net : Network

-- Steps of a connection. A step that fails keeps what it has done so far, and of one that never ends
-- the session is that in which it waits.
abbrev Tunnel := EStateM Stop Session

namespace Tunnel

def native {α : Type} (fault : Errno → Fault) (call : Network → Except Errno α × Network) :
    Tunnel α := fun s =>
  match call s.net with
  | (.ok a, net) => .ok a { s with net }
  | (.error cause, net) => .error (.fault (fault cause)) { s with net }

-- A native call that may never return.
def lasting {α : Type} (call : Network → Option α × Network) : Tunnel α := fun s =>
  match call s.net with
  | (some a, net) => .ok a { s with net }
  | (none, net) => .error .never { s with net }

def remark (level : Level) (text : String) : Tunnel Unit :=
  modify fun s => { s with net := s.net.remark level .transport text }

-- The descriptor of the connection; a socket is opened if there is none.
def acquire : Tunnel Holder := do
  match (← get).conn.holder with
  | some fd => return fd
  | none =>
      native .socket Network.openSocket
      modify fun s => { s with conn := { s.conn with holder := some .engine } }
      return .engine

-- Connects the descriptor to the proxy, unless that has been done.
def connect : Tunnel Unit := do
  let fd ← acquire
  let s ← get
  if s.conn.connected then return
  let (outcome, net) := s.net.connect fd (.ofBytes s.conn.target.sockaddr)
  set { s with net }
  if outcome.rc < 0 then
    remark .debug
      s!"Failed to connect fd {net.fdName fd} to proxy {s.conn.target.text}: {net.errno.text}"
    throw (.proxyUnreachable net.errno)
  modify fun s => { s with conn := { s.conn with connected := true } }

-- Puts the descriptor into blocking mode until the guard is released.
def forceBlocking : Tunnel BlockingGuard := do
  let fd ← acquire
  native .socket (BlockingGuard.acquire · fd)

def send (fd : Holder) (bytes : Bytes) : Tunnel Unit := do
  match ← lasting (Network.sendAll · fd bytes) with
  | .ok () => return
  | .error cause => throw (.sendFailed cause)

-- Starts the time that the response may take, which panics if its end is past what the clock can
-- show. The clock has moved on when it is looked at next.
def startBudget : Tunnel Unit := do
  if (← get).net.overruns (← get).conn.budget then throw .panic
  modify fun s =>
    { conn := { s.conn with deadline := s.conn.budget.map fun b => s.net.clock + b.nanos }
      net := { s.net with clock := s.net.clock + 1 } }

def readHead (fd : Holder) : Tunnel Head := do
  let deadline := (← get).conn.deadline
  lasting (Network.readHead · fd deadline)

def headRemarks (head : Head) : List Remark :=
  let (count, ending) := (head.lines.length, head.termination.name)
  ⟨.debug, .transport, s!"Response: {Text.quote head.statusLine} ({count} lines, {ending})"⟩
    :: head.headers.map fun (key, value) =>
      ⟨.trace, .transport, s!"  '{Utf8.lossy key}'='{Utf8.lossy value}'"⟩

def describe (head : Head) : Tunnel Unit :=
  modify fun s => { s with net := s.net.say (headRemarks head) }

-- Sends one request and reads the head of the response. A head that is cut short for any reason but
-- an expired deadline is a result like any other.
def exchange (request : Request) : Tunnel Head := do
  connect
  let fd ← acquire
  if request.truncated then
    remark .warn
      s!"{request.verb} request for {request.host} truncated to {request.bytes.length} bytes"
  send fd request.bytes
  remark .debug
    s!"send({request.verb}) -> {request.path} {request.host} ({request.bytes.length} bytes)"
  startBudget
  let head ← readHead fd
  describe head
  if head.termination = .readError .timedOut then
    throw (.timeout ((← get).conn.budget.getD ⟨0⟩))
  return head

def readSome (size : Nat) : Tunnel (Except ReadFailure Bytes) := do
  let conn := (← get).conn
  match conn.holder with
  | none => return .error .notConnected
  | some fd => lasting (Network.readSome · fd conn.deadline size)

-- Runs a step with the descriptor in blocking mode; the flags are put back however it ends, if it
-- does.
def blocking {α : Type} (step : Tunnel α) : Tunnel α := fun s =>
  match forceBlocking s with
  | .error stop s => .error stop s
  | .ok guard s =>
      match step s with
      | .ok a s => .ok a { s with net := guard.release s.net }
      | .error .never s => .error .never s
      | .error stop s => .error stop { s with net := guard.release s.net }

end Tunnel

-- Ends a connection: its own socket is closed, the host program's descriptor stays open.
def Session.drop (s : Session) : Network := if s.conn.owns then s.net.close .engine else s.net

-- Runs a step on a connection that ends with it, unless the step never does.
def Tunnel.runOn {α : Type} (step : Tunnel α) (conn : Connection) (net : Network) :
    Except Stop α × Network :=
  match step ⟨conn, net⟩ with
  | .ok a s => (.ok a, s.drop)
  | .error .never s => (.error .never, s.net)
  | .error stop s => (.error stop, s.drop)

end ProxyTunnel
