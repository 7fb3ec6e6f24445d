import ProxyTunnel.Network

/-!
A server on a port of the machine itself, which answers one connection after another, and the
network that a host program sees around each of its calls.
-/

set_option autoImplicit false

namespace ProxyTunnel

-- How one connection is served: with a reply, for which the server waits until the request ends
-- with a blank line unless it speaks first.
structure Service where
  reply : Bytes
  speaksFirst : Bool
deriving DecidableEq, Repr

-- A server with the connections that it will still serve and the requests that it has read.
structure LocalServer where
  port : Nat
  services : List Service
  requests : List Bytes
deriving DecidableEq, Repr

namespace LocalServer

def throughBlankLine : Bytes → Bytes
  | 13 :: 10 :: 13 :: 10 :: _ => [13, 10, 13, 10]
  | b :: rest => b :: throughBlankLine rest
  | [] => []

def script? (s : LocalServer) : Option ProxyScript :=
  s.services.head?.map fun service => ⟨[.bytes service.reply], .closes, ⟨[], none⟩⟩

-- The network for one call, on a fresh descriptor of a kind if the call has one. A machine without
-- a server is cut off from every network.
def network (server : Option LocalServer) (kind : Option EndpointKind) : Network where
  clock := 0
  callerNumber := if kind.isSome then 700 else -1
  caller := kind.map fun kind => .fresh kind .none false
  engine := none
  reach :=
    match server with
    | none => .isolated
    | some s => .loopback (s.script?.map fun _ => s.port)
  resolver := .numeric
  proxy := server.bind script?
  refusal := none
  barred := false
  errno := default
  calls := []
  remarks := []

-- The server after a call that leaves its network in this state.
def after (s : LocalServer) (net : Network) : LocalServer :=
  match s.services, net.proxy with
  | service :: services, none =>
      let request := if service.speaksFirst then [] else throughBlankLine net.received
      { s with services, requests := s.requests ++ [request] }
  | _, _ => s

end LocalServer

end ProxyTunnel
