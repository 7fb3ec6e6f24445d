import ProxyTunnel.Network

/-!
How a call ends that a host program makes: it returns, it panics on the way, or it waits for ever.
-/

set_option autoImplicit false

namespace ProxyTunnel

inductive Course (α : Type) where
  | returns (result : α)
  | panics
  -- It waits for what does not come.
  | never
deriving DecidableEq, Repr

-- A call that returns, with the network that it leaves.
def Course.ofReturn {α : Type} (returned : α × Network) : Course α × Network :=
  (.returns returned.1, returned.2)

end ProxyTunnel
