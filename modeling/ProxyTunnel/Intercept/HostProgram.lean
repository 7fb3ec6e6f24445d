import ProxyTunnel.Intercept.Connect
import ProxyTunnel.Intercept.Resolve
import ProxyTunnel.Intercept.Startup

/-!
A host program that has the library loaded. Its context is made from its environment at the first
event that needs one, which is the loading itself unless a call comes before it, and stays for the
rest of its life. A hook is the intercepted call in that context; where making the context or the
intercepted call panics, it is the real call instead, and a context that was not made is tried again
at the next event.
-/

set_option autoImplicit false

namespace ProxyTunnel

-- A program, its environment as it is now, and what was made of the environment when it was needed
-- first.
structure HostProgram where
  name : Bytes
  env : Environment
  startup : Option Startup

namespace HostProgram

def fresh (name : Bytes) (env : Environment) : HostProgram := ⟨name, env, none⟩

-- What happens in the life of a program. A call finds a network around it.
inductive Event where
  | load
  | setVariable (name value : Bytes)
  | unsetVariable (name : Bytes)
  | connect (address : SocketAddress) (net : Network)
  | getaddrinfo (question : Lookup) (net : Network)
  -- The system has an answer to a reverse lookup.
  | getnameinfo (system : NameAnswer) (question : NameQuery) (net : Network)

-- What a program sees of an event, and the network that a call leaves behind.
inductive Answer where
  | nothing
  | connected (result : CallResult) (net : Network)
  | lookedUp (code : Int) (net : Network)
  | named (answer : NameAnswer) (net : Network)
  -- The call never returns.
  | never (net : Network)

-- A hook: the intercepted call, and after a panic the real one.
def hook {α : Type} (startup : Option Startup) (intercepted : Context → Network → Course α × Network)
    (real : Network → α × Network) (net : Network) : Option α × Network :=
  match startup with
  | none => (real net).map some id
  | some made =>
      match intercepted made.context net with
      | (.returns result, net) => (some result, net)
      | (.panics, net) => (real net).map some id
      | (.never, net) => (none, net)

def Answer.ofHook {α : Type} (seen : α → Network → Answer) : Option α × Network → Answer
  | (some result, net) => seen result net
  | (none, net) => .never net

-- What an event comes to in a program that has this context, if it has one.
def answer (startup : Option Startup) : Event → Answer
  | .load | .setVariable _ _ | .unsetVariable _ => .nothing
  | .connect address net =>
      .ofHook .connected (hook startup (Intercept.connect · address ·)
        (Intercept.passThrough · address) net)
  | .getaddrinfo question net =>
      .ofHook .lookedUp (hook startup (Intercept.getaddrinfo · question ·)
        (Network.lookup · question) net)
  | .getnameinfo system question net =>
      .ofHook .named (hook startup
        (fun context net => Course.ofReturn (Intercept.getnameinfo context system question net))
        (Network.nameInfo · system question) net)

variable (c : Configuration)

-- The context of a program once an event has needed it; there is none if making it panics.
def current (h : HostProgram) : Option Startup := h.startup.or (Startup.runBy c h.name h.env)

def next (h : HostProgram) : Event → HostProgram
  | .setVariable name value => { h with env := h.env.set name value }
  | .unsetVariable name => { h with env := h.env.unset name }
  | .load | .connect _ _ | .getaddrinfo _ _ | .getnameinfo _ _ _ =>
      { h with startup := h.current c }

-- One event: what the program sees of it, and the program after it.
def step (h : HostProgram) (event : Event) : Answer × HostProgram :=
  (answer (h.current c) event, h.next c event)

-- Events in order: what the program sees of each, and the program after them. A call that never
-- returns keeps its own thread; the events after it are those of the others.
def run : HostProgram → List Event → List Answer × HostProgram
  | h, [] => ([], h)
  | h, event :: events =>
      let (seen, h) := h.step c event
      let (rest, h) := run h events
      (seen :: rest, h)

end HostProgram

end ProxyTunnel
