import ProxyTunnel.Proofs.Intercept.Resolution
import ProxyTunnel.Proofs.Response.Truncation

/-!
Replies that are cut short, by the proxy, by a failing read or by a wait that is given up: such a
reply names the substitute that the whole reply names, or none.
-/

set_option autoImplicit false

namespace ProxyTunnel.Intercept

open HeadText

theorem substitute_kept (short whole : Head) (host : Bytes)
    (kept : ∀ name text, short.get? name = some text → whole.get? name = some text)
    (named : substituteIn short = some host) : substituteIn whole = some host := by
  rw [substituteIn] at named ⊢
  cases found : short.get? "Host" with
  | none =>
      rw [found] at named
      cases named
  | some text =>
      rw [found] at named
      rw [kept "Host" text found]
      exact named

-- A substitute that is found stands in the head of the reply.
theorem substitute_read (context : Context) (name : String) (net : Network) (script : ProxyScript)
    (host : Bytes) (proxy : net.proxy = some script)
    (found : (substitute context name net).1 = .returns (some host)) :
    substituteIn script.head = some host := by
  obtain ⟨⟨_, _, reaches, _, _, line⟩, _⟩ := (substitute_names context name net host).mp found
  obtain rfl := Option.some.inj (proxy.symm.trans reaches.proxy)
  exact (host_line_iff _ host).mpr line

theorem cut_reply_adds_nothing (s : Bytes) (k : Nat) (cut after : List ReadOutcome)
    (halts : ∀ o ∈ cut.head?, passes o = false) :
    let short := (Head.read ((s.take k).map .byte ++ cut)).1
    let whole := (Head.read (s.map .byte ++ after)).1
    (short.stored = whole.stored ∨ short.stored = withoutReturns (s.take k)) ∧
      short.headers <+: whole.headers ∧
      (∀ name text, short.get? name = some text → whole.get? name = some text) ∧
      ∀ context name net script, net.proxy = some script → delivered script.outcomes <+: s →
        ∀ found, (substitute context name net).1 = .returns found →
          found = none ∨ found = substituteIn whole := by
  intro short whole
  have stream : s <+: delivered (s.map .byte ++ after) := by
    have part := delivered_part (s.map .byte) after
    rwa [delivered_bytes] at part
  have come : delivered ((s.take k).map .byte ++ cut) = s.take k := by
    rw [delivered_cut _ cut halts, delivered_bytes]
  obtain ⟨stored, headers, fields⟩ := heads_grow ((s.take k).map .byte ++ cut)
    (s.map .byte ++ after) (by rw [come]; exact (List.take_prefix k s).trans stream)
  rw [come] at stored
  refine ⟨stored, headers, fields, fun context name net script proxy part found asked => ?_⟩
  cases found with
  | none => exact .inl rfl
  | some host =>
      have named := substitute_read context name net script host proxy asked
      have ends := (script.inbound 0).end_outcome_byte
      have reads : delivered (script.outcomes ++ [(script.inbound 0).endOutcome]) <+:
          delivered (s.map .byte ++ after) := by
        rw [delivered_silent _ _ ends]
        exact part.trans stream
      exact .inr (substitute_kept _ whole host (heads_grow _ _ reads).2.2 named).symm

theorem cut_reply_adds_nothing_reset :
    let short := (Head.read ((namedReply.take 17).map .byte ++ [.failed .connectionReset])).1
    let whole := (Head.read (namedReply.map .byte ++ [])).1
    short.headers <+: whole.headers ∧ short.headers ≠ [] ∧
      substituteIn whole = some (Utf8.encode "10.0.0.5") ∧
      ∃ found, (substitute here "b" (facing (namedReply.take 17))).1 = .returns found ∧
        (found = none ∨ found = substituteIn whole) := by
  obtain ⟨_, headers, _, names⟩ :=
    cut_reply_adds_nothing namedReply 17 [.failed .connectionReset] [] (by decide)
  refine ⟨headers, by decide +kernel, by decide +kernel, none, by decide +kernel, ?_⟩
  exact names here "b" (facing (namedReply.take 17)) _ rfl (by decide +kernel) none
    (by decide +kernel)

end ProxyTunnel.Intercept
