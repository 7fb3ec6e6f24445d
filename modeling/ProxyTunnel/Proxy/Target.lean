import ProxyTunnel.Diagnostics
import ProxyTunnel.Text.Decimal
import ProxyTunnel.Text.Quoted

/-!
The local proxy that connections go through: a port of the loopback address, named by a URL.
-/

set_option autoImplicit false

namespace ProxyTunnel

structure Target where
  port : Nat
  port_pos : 0 < port
  port_lt : port < 65536
deriving DecidableEq, Repr

namespace Target

def ofPort? (port : Nat) : Option Target :=
  if h : 0 < port ∧ port < 65536 then some ⟨port, h.1, h.2⟩ else none

-- Address and port, as they are shown and as they are connected to.
def text (t : Target) : String := "127.0.0.1:" ++ toString t.port

-- The socket address of the proxy: family, port, address and padding.
def sockaddr (t : Target) : List UInt8 :=
  [2, 0, UInt8.ofNat (t.port / 256), UInt8.ofNat t.port, 127, 0, 0, 1] ++ List.replicate 8 0

def schemes : List String := ["http://localhost:", "http://127.0.0.1:"]

def afterAny? : List (List Char) → List Char → Option (List Char)
  | [], _ => none
  | head :: heads, cs =>
      if head.isPrefixOf cs then some (cs.drop head.length) else afterAny? heads cs

inductive Refusal where
  | unsupportedScheme
  | notDecimal
  | outOfRange
deriving DecidableEq, Repr

-- The proxy that a URL names: one of `schemes`, then the port in decimal and nothing else.
def read (url : String) : Except Refusal Target :=
  match afterAny? (schemes.map String.toList) url.toList with
  | none => .error .unsupportedScheme
  | some port =>
      match Decimal.read? port with
      | none => .error .notDecimal
      | some n =>
          match ofPort? n with
          | none => .error .outOfRange
          | some target => .ok target

def parse? (url : String) : Option Target := (read url).toOption

-- What is said about a URL when it is read; a port out of range goes unmentioned.
def remarks (url : String) : List Remark :=
  let line (complaint : String) : List Remark :=
    [⟨.debug, .target, "Proxy URL " ++ Text.quote url ++ complaint⟩]
  match read url with
  | .error .unsupportedScheme => line " has an unsupported prefix"
  | .error .notDecimal => line " has no decimal port"
  | .error .outOfRange | .ok _ => []

end Target

end ProxyTunnel
