import ProxyTunnel.Errno
import ProxyTunnel.Text.Utf8

/-!
Sending. A send may take only the first part of what it is offered, may be interrupted, or may be
refused; `transmit` goes on until everything is taken or a send fails for good.
-/

set_option autoImplicit false

namespace ProxyTunnel

inductive SendOutcome where
  -- The first `count` of the bytes offered are taken.
  | taken (count : Nat)
  | refused (cause : Errno)
deriving DecidableEq, Repr

-- How a descriptor answers sends: outcomes one by one, and after them always alike.
structure Outbound where
  outcomes : List SendOutcome
  -- The cause for which later sends are refused; without one they take everything.
  standing : Option Errno
deriving DecidableEq, Repr

-- The result of sending a text: the bytes taken, in order, the cause if a send failed for good, and
-- the outcomes that were not asked for. Where sends are interrupted from some point on, the
-- interruption stands as the cause, though sending then never ends.
structure Transmission where
  taken : Bytes
  failure : Option Errno
  rest : List SendOutcome
deriving DecidableEq, Repr

-- Sends all bytes: what a send leaves is offered again, an interrupted send is repeated, and a send
-- that takes nothing means that nobody reads any more.
def transmit (standing : Option Errno) : List SendOutcome → Bytes → Transmission
  | outcomes, [] => ⟨[], none, outcomes⟩
  | [], b :: bytes =>
      match standing with
      | none => ⟨b :: bytes, none, []⟩
      | some cause => ⟨[], some cause, []⟩
  | .taken 0 :: rest, _ :: _ => ⟨[], some .EPIPE, rest⟩
  | .taken (n + 1) :: rest, b :: bytes =>
      let t := transmit standing rest (bytes.drop n)
      ⟨b :: bytes.take n ++ t.taken, t.failure, t.rest⟩
  | .refused .EINTR :: rest, b :: bytes => transmit standing rest (b :: bytes)
  | .refused cause :: rest, _ :: _ => ⟨[], some cause, rest⟩

end ProxyTunnel
