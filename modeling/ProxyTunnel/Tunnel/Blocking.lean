import ProxyTunnel.Fault
import ProxyTunnel.Network

/-!
Blocking mode for a while: a guard takes a snapshot of a descriptor's status flags, clears the
non-blocking flag if it is set, and puts the snapshot back on release.
-/

set_option autoImplicit false

namespace ProxyTunnel

structure BlockingGuard where
  fd : Holder
  saved : StatusFlags
deriving DecidableEq, Repr

namespace BlockingGuard

def cleared (saved : StatusFlags) : StatusFlags := saved.without .nonblock

def acquire (n : Network) (fd : Holder) : Except Errno BlockingGuard × Network :=
  match n.getFlags fd with
  | .error cause => n.fail cause
  | .ok saved =>
      if saved.contains .nonblock then
        match n.setFlags fd (cleared saved) with
        | (.error cause, n) => (.error cause, n)
        | (.ok (), n) =>
            (.ok ⟨fd, saved⟩,
              n.remark .trace .transport s!"fd {n.fdName fd} switched to blocking mode")
      else (.ok ⟨fd, saved⟩, n)

-- Puts the snapshot back if the non-blocking flag was set in it.
def release (g : BlockingGuard) (n : Network) : Network :=
  if g.saved.contains .nonblock then
    match n.setFlags g.fd g.saved with
    | (.ok (), n) => n
    | (.error cause, n) =>
        n.remark .warn .transport
          (s!"Failed to restore flags on fd {n.fdName g.fd}: " ++ cause.text)
  else n

end BlockingGuard

end ProxyTunnel
