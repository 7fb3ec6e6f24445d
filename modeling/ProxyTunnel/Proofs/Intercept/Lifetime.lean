import Mathlib.Data.List.Forall2
import ProxyTunnel.Proofs.Intercept.History
import ProxyTunnel.Proofs.Intercept.Hooks

/-!
The life of a program that has the library loaded, in one context. The calls of a life share a
clock, a table of descriptors and a record; that a call comes after others makes no difference to
it.
-/

set_option autoImplicit false

namespace ProxyTunnel

namespace Network

-- What a network has become since a call began in it: times are counted from there, and the calls
-- made from there on are kept. What was said is left out, as is the cause of an earlier failure.
def since (n start : Network) : Network :=
  { n with
    clock := n.clock - start.clock
    caller := n.caller.map (·.since start.clock)
    engine := n.engine.map (·.since start.clock)
    errno := default
    calls := n.calls.drop start.calls.length
    remarks := [] }

variable (past n m : Network)

end Network

namespace HostProgram

open Network

def Event.net? : Event → Option Network
  | .load | .setVariable _ _ | .unsetVariable _ => none
  | .connect _ net | .getaddrinfo _ net | .getnameinfo _ _ net => some net

-- What a program sees of a call, as from the time when it began.
def Answer.since (start : Network) : Answer → Answer
  | .nothing => .nothing
  | .connected result net => .connected result (net.since start)
  | .lookedUp code net => .lookedUp code (net.since start)
  | .named seen net => .named seen (net.since start)
  | .never net => .never (net.since start)

-- What an event leaves to the next one, if there is a next one.
def Answer.leaves (past : Network) : Answer → Option Network
  | .nothing => some past
  | .connected _ net | .lookedUp _ net | .named _ net => some net
  | .never _ => none

-- What a program sees of a call that is the only one of its life.
def alone (startup : Option Startup) (event : Event) : Answer :=
  match event.net? with
  | none => .nothing
  | some net => (answer startup event).since net

section

variable {α : Type} (past : Network) (startup : Option Startup)
  (intercepted : Context → Network → Course α × Network) (real : Network → α × Network)

end

section

variable (c : Configuration)

end

-- How many calls there are in the record that an answer leaves.
def Answer.count : Answer → Nat
  | .nothing => 0
  | .connected _ net | .lookedUp _ net | .named _ net | .never net => net.calls.length

end HostProgram

end ProxyTunnel
