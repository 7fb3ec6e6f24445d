import ProxyTunnel.Network.Endpoint

/-!
What a proxy's reply comes to for the one who reads it: its parts in their order, at the times at
which they arrive.
-/

set_option autoImplicit false

namespace ProxyTunnel

namespace Inbound

def bytesOf (arrivals : List Arrival) : Bytes := arrivals.filterMap (·.outcome.byte?)

theorem bytes_of_outcomes (arrivals : List Arrival) :
    (arrivals.map (·.outcome)).filterMap ReadOutcome.byte? = bytesOf arrivals := by
  rw [List.filterMap_map]
  rfl

end Inbound

-- What reads of a part of a reply find.
def ReplyPart.outcomes : ReplyPart → List ReadOutcome
  | .bytes sent => sent.map .byte
  | .pause _ => []
  | .failure cause => [.failed cause]

namespace ProxyScript

-- What reads of the whole reply find.
def outcomes (s : ProxyScript) : List ReadOutcome := s.reply.flatMap ReplyPart.outcomes

-- The bytes of the reply.
def delivers (s : ProxyScript) : Bytes := s.outcomes.filterMap ReadOutcome.byte?

theorem schedule_outcomes (reply : List ReplyPart) (now : Nat) :
    (schedule now reply).1.map (·.outcome) = reply.flatMap ReplyPart.outcomes := by
  induction reply generalizing now with
  | nil => rfl
  | cons part reply ih =>
      cases part with
      | bytes sent => simp [schedule, ReplyPart.outcomes, ih, Function.comp_def]
      | pause millis => simp [schedule, ReplyPart.outcomes, ih]
      | failure failure => simp [schedule, ReplyPart.outcomes, ih]

theorem inbound_outcomes (s : ProxyScript) (now : Nat) :
    (s.inbound now).arrivals.map (·.outcome) = s.outcomes :=
  schedule_outcomes s.reply now

theorem inbound_unread (s : ProxyScript) (now : Nat) : (s.inbound now).unread = s.delivers := by
  rw [delivers, ← inbound_outcomes s now, Inbound.bytes_of_outcomes]
  rfl

-- No read of the reply reports by itself that time has run out. What a proxy does itself, to send,
-- to pause, to close, to reset or to keep silent, is never reported so.
structure Plain (s : ProxyScript) : Prop where
  parts : ∀ part ∈ s.reply, part ≠ .failure .timedOut
  ending : s.ending ≠ .refuses .timedOut

theorem plain_outcomes (s : ProxyScript) (plain : s.Plain) :
    .failed .timedOut ∉ s.outcomes := by
  intro member
  obtain ⟨part, held, found⟩ := List.mem_flatMap.mp member
  cases part with
  | bytes sent => simp [ReplyPart.outcomes] at found
  | pause millis => simp [ReplyPart.outcomes] at found
  | failure cause =>
      obtain rfl : .timedOut = cause := by simpa [ReplyPart.outcomes] using found
      exact plain.parts _ held rfl

theorem plain_end (s : ProxyScript) (now : Nat) (plain : s.Plain) :
    (s.inbound now).endOutcome ≠ .failed .timedOut := by
  have ending := plain.ending
  rw [inbound, Inbound.endOutcome]
  cases met : s.ending <;> simp_all

end ProxyScript

end ProxyTunnel
