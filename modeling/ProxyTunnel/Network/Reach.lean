import ProxyTunnel.Network.Endpoint
import ProxyTunnel.Network.Numeric

/-!
How the world answers native calls: what connecting comes to, and what looking up a name does.
-/

set_option autoImplicit false

namespace ProxyTunnel

inductive Reach where
  -- These outcomes in order, and 0 after them.
  | scripted (outcomes : List ConnectOutcome)
  | isolated
  -- Only this machine can be reached, where a server may listen on a port.
  | loopback (server : Option Nat)
deriving DecidableEq, Repr

namespace Reach

def refused (cause : Errno) : ConnectOutcome := ⟨-1, cause⟩

def dialLoopback (server : Option Nat) (kind : EndpointKind) (address : SocketAddress) :
    ConnectOutcome :=
  match IpAddress.ofSocketAddress? address with
  | none => refused .EINVAL
  | some (ip, port) =>
      if !ip.isLoopback then refused .ENETUNREACH
      else if !kind.isStream || (ip.family = 2 && server = some port) then ⟨0, default⟩
      else refused .ECONNREFUSED

-- The outcome of a native connect on a descriptor of a kind, if it is open, and what later ones
-- come to.
def dial (r : Reach) (kind : Option EndpointKind) (address : SocketAddress) :
    ConnectOutcome × Reach :=
  match r, kind with
  | scripted outcomes, _ => (outcomes.headD ⟨0, default⟩, scripted outcomes.tail)
  | _, none => (refused .EBADF, r)
  | isolated, some _ => (refused .ENETUNREACH, r)
  | loopback server, some kind => (dialLoopback server kind address, r)

end Reach

inductive Resolver where
  -- By these codes in order, and by 0 after them.
  | scripted (codes : List Int)
  | numeric
deriving DecidableEq, Repr

-- The code that answers a native lookup, and how later ones are answered.
def Resolver.answer (r : Resolver) (question : Lookup) : Int × Resolver :=
  match r with
  | scripted codes => (codes.headD 0, scripted codes.tail)
  | numeric => (Numeric.code question, numeric)

end ProxyTunnel
