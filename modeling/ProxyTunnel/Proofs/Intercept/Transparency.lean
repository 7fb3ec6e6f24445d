import ProxyTunnel.Proofs.Intercept.Redirection
import ProxyTunnel.Proofs.Network.Reading
import ProxyTunnel.Proofs.Network.Replies
import ProxyTunnel.Proofs.Response.Block

/-!
What is left on the descriptor of the caller after a redirected `connect`: nothing of what follows
the header block is ever taken, and of the block something is left only where reading was cut short.
-/

set_option autoImplicit false

namespace ProxyTunnel

namespace Inbound

open HeadText

variable {i : Inbound} {p : Patience} {now k : Nat} {final : ReadOutcome}
  {used rest : List ReadOutcome} {t : Termination}

-- The arrivals that are taken are all that is used, but for the outcome after the last arrival.
theorem reads_used (reads : Reads i p now k final used rest t) :
    (used.length ≤ k ∧ used = (i.arrivals.take (min used.length k)).map (·.outcome)) ∨
      (k < used.length ∧ rest = [] ∧
        used = (i.arrivals.take (min used.length k)).map (·.outcome) ++ [final]) := by
  have within := reads.met.within
  have split := reads.met.split
  have lengths := congrArg List.length split
  simp only [List.length_append, List.length_map, List.length_take, List.length_singleton]
    at lengths
  by_cases short : used.length ≤ k
  · refine .inl ⟨short, ?_⟩
    have taken := congrArg (List.take used.length) split
    rw [List.take_left, List.take_append_of_le_length (by simp; omega), ← List.map_take,
      List.take_take] at taken
    exact taken
  · have nothing : rest = [] := List.length_eq_zero_iff.mp (by omega)
    refine .inr ⟨Nat.lt_of_not_le short, nothing, ?_⟩
    rw [nothing, List.append_nil] at split
    rw [Nat.min_eq_right (Nat.le_of_not_le short)]
    exact split

theorem reads_text (reads : Reads i p now k final used rest t) :
    used.filterMap ReadOutcome.byte? = bytesOf (i.arrivals.take (min used.length k)) := by
  rcases reads_used reads with ⟨_, same⟩ | ⟨_, _, same⟩
  · have bytes := congrArg (List.filterMap ReadOutcome.byte?) same
    rwa [bytes_of_outcomes] at bytes
  · have bytes := congrArg (List.filterMap ReadOutcome.byte?) same
    rw [List.filterMap_append, bytes_of_outcomes] at bytes
    simpa [reads.met.last] using bytes

-- Reading takes no byte that follows a block.
theorem reads_within (reads : Reads i p now k final used rest t) (block payload : Bytes)
    (whole : bytesOf i.arrivals = block ++ payload) (complete : Block block) :
    bytesOf (i.arrivals.take (min used.length k)) <+: block := by
  have taken : bytesOf (i.arrivals.take (min used.length k)) <+: block ++ payload := by
    rw [← whole]
    exact (List.take_prefix _ _).filterMap _
  rcases List.prefix_or_prefix_of_prefix taken (List.prefix_append block payload) with
    within | ⟨beyond, more⟩
  · exact within
  · by_cases none : beyond = []
    · rw [none, List.append_nil] at more
      exact ⟨[], by rw [List.append_nil, more]⟩
    · rw [← reads_text reads] at more
      obtain ⟨part, after, split, first, second⟩ := List.filterMap_eq_append_iff.mp more.symm
      have left : after ≠ [] := by
        rintro rfl
        exact none second.symm
      have quiet := (reads.course.going part after split left).2
      obtain ⟨_, _, blank, _⟩ := block_text block complete
      rw [text, first, List.nil_append, verdict, if_pos blank] at quiet
      cases quiet

-- Reads that could be made all along: none failed before the end of the block but by an
-- interruption, and no wait was refused.
def Undisturbed (p : Patience) (arrivals : List Arrival) (block : Bytes) : Prop :=
  block <+: delivered (arrivals.map (·.outcome)) ∧ (p.deadline = none ∨ p.barred = false)

theorem arrivals_split (arrivals : List Arrival) (c : Nat) : arrivals.map (·.outcome) =
    (arrivals.take c).map (·.outcome) ++ (arrivals.drop c).map (·.outcome) := by
  rw [← List.map_append, List.take_append_drop]

theorem block_taken (reads : Reads i p now k final used rest t) (block : Bytes)
    (complete : Block block)
    (taken : bytesOf (i.arrivals.take (min used.length k)) = block) :
    Fits block ∧ Undisturbed p i.arrivals block := by
  obtain ⟨front, rfl, blank, further⟩ := block_text block complete
  have stored : text used = withoutReturns (front ++ [10]) := by
    rw [text, reads_text reads, taken]
  have stops : verdict (text used) ≠ none := by
    rw [stored, verdict, if_pos blank]
    simp
  refine ⟨(block_fits front further).mpr ?_, ?_, ?_⟩
  · intro q part
    rw [without_returns_append] at stored
    refine course_prefix used rest t reads.course q ?_ ?_
    · rw [stored]
      exact part.trans (List.prefix_append _ _)
    · rintro rfl
      rw [stored] at part
      have longer := part.length_le
      have newline : withoutReturns [10] = [10] := rfl
      simp only [newline, List.length_append, List.length_singleton] at longer
      omega
  · rw [arrivals_split i.arrivals (min used.length k)]
    rcases reads_used reads with ⟨_, same⟩ | ⟨_, _, same⟩
    · rcases reads.course.stop with ⟨passing, _⟩ | ⟨quiet, _⟩
      · rw [← same, delivered_append _ _ passing, reads_text reads, taken]
        exact List.prefix_append _ _
      · exact absurd quiet stops
    · have quiet := (reads.course.going _ _ same (by simp)).2
      rw [List.nil_append, text, bytes_of_outcomes, taken, ← stored] at quiet
      exact absurd quiet stops
  · by_contra refused
    rw [not_or, Bool.not_eq_false] at refused
    rw [reads.met.unpolled refused.1 refused.2, Nat.min_zero, List.take_zero] at taken
    simp [bytesOf] at taken

-- Where some arrival is left and there is no verdict, a failure has ended the reading, and nothing
-- was delivered beyond it.
theorem halted_reach (reads : Reads i p now k final used rest t) (few : used.length ≤ k)
    (same : used = (i.arrivals.take (min used.length k)).map (·.outcome))
    (quiet : verdict (text used) = none) (bytes : Bytes)
    (reach : bytes <+: delivered (i.arrivals.map (·.outcome))) :
    bytes.length ≤ (bytesOf (i.arrivals.take (min used.length k))).length := by
  have lengths := congrArg List.length reads.met.split
  have within := reads.met.within
  simp only [List.length_append, List.length_map, List.length_take, List.length_singleton]
    at lengths
  rcases course_shape [] used rest t reads.course with passing | ⟨before, o, last, passing, halts⟩
  · rcases reads.course.stop with ⟨_, stop⟩ | ⟨_, _, finished⟩
    · rw [List.nil_append, quiet] at stop
      cases stop
    · rw [finished passing, List.length_nil] at lengths
      omega
  · have silent : o.byte? = none := by
      cases o with
      | byte b => cases halts
      | ended | failed => rfl
    have stored : before.filterMap ReadOutcome.byte? =
        bytesOf (i.arrivals.take (min used.length k)) := by
      rw [← reads_text reads, last, List.filterMap_append]
      simp [silent]
    rw [arrivals_split i.arrivals (min used.length k), ← same, last, List.append_assoc,
      delivered_append before _ passing, List.singleton_append, delivered_halt o _ halts,
      List.append_nil, stored] at reach
    exact reach.length_le

theorem undisturbed_takes (reads : Reads i p now k final used rest t) (block payload : Bytes)
    (whole : bytesOf i.arrivals = block ++ payload) (complete : Block block) (fits : Fits block)
    (undisturbed : Undisturbed p i.arrivals block) (waits : p.blocking = true)
    (timely : t ≠ .readError .timedOut) :
    bytesOf (i.arrivals.take (min used.length k)) = block := by
  have within := reads_within reads block payload whole complete
  obtain ⟨front, rfl, blank, further⟩ := block_text block complete
  rcases List.prefix_concat_iff.mp within with same | part
  · exact same
  · have quiet : verdict (text used) = none := by
      rw [text, reads_text reads]
      exact (block_fits front further).mp fits _ (part.filter _)
    have shorter : (bytesOf (i.arrivals.take (min used.length k))).length <
        (front ++ [10]).length := by
      have bound := part.length_le
      rw [List.length_append, List.length_singleton]
      omega
    rcases reads_used reads with ⟨few, same⟩ | ⟨many, _, same⟩
    · exact absurd shorter (Nat.not_lt.mpr (halted_reach reads few same quiet _ undisturbed.1))
    · by_cases all : i.arrivals.length ≤ k
      · rw [Nat.min_eq_right (Nat.le_of_lt many), List.take_of_length_le all, whole,
          List.length_append] at shorter
        omega
      · obtain ⟨failure, rfl, gives⟩ := reads.met.early (Nat.lt_of_not_le all)
        have passing := (reads.course.going _ _ same (by simp)).1
        rcases gives with rfl | ⟨_, limited, full⟩ | ⟨_, _, impatient⟩
        · rcases reads.course.stop with ⟨_, stop⟩ | ⟨_, cut, _⟩
          · rw [List.nil_append, quiet] at stop
            cases stop
          · rw [same, cutoff_append _ _ passing] at cut
            exact absurd cut timely
        · rcases undisturbed.2 with unlimited | room
          · exact absurd unlimited limited
          · rw [full] at room
            cases room
        · rw [waits] at impatient
          cases impatient

theorem read_block (i : Inbound) (p : Patience) (now : Nat) (block payload : Bytes)
    (whole : i.unread = block ++ payload) (complete : Block block) (waits : p.blocking = true)
    (timely : (i.readHead p now).1.termination ≠ .readError .timedOut) :
    ∃ left, (i.readHead p now).2.2.unread = left ++ payload ∧ left <:+ block ∧
      (left = [] ↔ Fits block ∧ Undisturbed p i.arrivals block) := by
  obtain ⟨k, final, used, rest, t, reads⟩ := read_head_reads i p now
  obtain ⟨left, split⟩ := reads_within reads block payload whole complete
  have all : bytesOf (i.arrivals.take (min used.length k)) ++
      bytesOf (i.arrivals.drop (min used.length k)) = block ++ payload := by
    rw [← whole, bytesOf, bytesOf, ← List.filterMap_append, List.take_append_drop]
    rfl
  refine ⟨left, ?_, ⟨_, split⟩, ?_⟩
  · rw [← split, List.append_assoc] at all
    rw [unread, reads.left]
    exact List.append_cancel_left all
  · constructor
    · rintro rfl
      rw [List.append_nil] at split
      exact block_taken reads block complete split
    · rintro ⟨fits, undisturbed⟩
      rw [reads.head] at timely
      have taken :=
        undisturbed_takes reads block payload whole complete fits undisturbed waits timely
      rw [taken] at split
      exact List.append_right_eq_self.mp split

end Inbound

namespace Intercept

open HeadText

theorem answer_ok (ended : Except Stop Head) (fine : answer ended = .returns ⟨0, none⟩) :
    ∃ head, ended = .ok head := by
  rcases ended with (fault | _ | _) | head <;> first | exact ⟨head, rfl⟩ | cases fine

theorem connect_transparent (context : Context) (address : SocketAddress) (net : Network)
    (script : ProxyScript) (block payload : Bytes) (eligible : Eligible context address net)
    (proxy : net.proxy = some script) (replies : script.delivers = block ++ payload)
    (complete : Block block) (tunneled : (connect context address net).1 = .returns ⟨0, none⟩) :
    ∃ after left, (connect context address net).2.caller = some after ∧
      after.inbound.unread = left ++ payload ∧ left <:+ block ∧
      (left = [] ↔ (withoutReturns block).length ≤ 1023 ∧ block.count 10 ≤ 32 ∧
        block <+: delivered script.outcomes ∧
        (context.budget = none ∨ net.barred = false)) := by
  obtain ⟨target, destination, e, active, redirected, held⟩ :=
    eligible_redirects context address net eligible
  obtain ⟨kept, remarks, keeps, flags, asked⟩ :=
    connect_asks context address net target destination e active redirected held
  rw [asked] at tunneled ⊢
  obtain ⟨head, fine⟩ := answer_ok _ tunneled
  have stream := eligible_stream context address net e eligible held
  obtain ⟨_, read, timely, last, left, inbound⟩ := Network.ask_reads
    (net.setEndpoint .caller (some e.waiting)) .caller e.waiting script target context.budget
    (.connect destination.text) head rfl proxy stream fine
  have same : kept = last := Option.some.inj (keeps.symm.trans left)
  have whole : (script.inbound net.clock).unread = block ++ payload := by
    rw [ProxyScript.inbound_unread, replies]
  let patience := net.hearing e.waiting script context.budget
  have waits : patience.blocking = true := by
    simp [patience, Network.hearing, Endpoint.waiting, StatusFlags.without_contains]
  rw [← read] at timely
  obtain ⟨remaining, unread, part, nothing⟩ := Inbound.read_block (script.inbound net.clock)
    patience (net.clock + 1) block payload whole complete waits timely
  refine ⟨{ kept with flags := e.flags }, remaining, ?_, ?_, part, ?_⟩
  · rw [fine]
    rfl
  · rw [same]
    exact (congrArg Inbound.unread inbound).trans unread
  · rw [nothing, Inbound.Undisturbed, ProxyScript.inbound_outcomes, Fits, and_assoc]
    simp [patience, Network.hearing]

-- A block with an empty status line and this many lines of the form `k: v`.
def plainBlock (lines : Nat) : Bytes := spell ([] :: List.replicate lines [107, 58, 32, 118] ++ [[]])

theorem plain_block (lines : Nat) : Block (plainBlock lines) := by
  refine ⟨[], List.replicate lines [107, 58, 32, 118], [], ⟨?_, by simp [key, withoutReturns], rfl⟩,
    rfl⟩
  intro line member
  have shape : line = [] ∨ line = [107, 58, 32, 118] := by
    simp only [List.cons_append, List.mem_cons, List.mem_append, List.mem_replicate,
      List.not_mem_nil, or_false] at member
    tauto
  rcases shape with rfl | rfl <;> decide

theorem connect_transparent_short : ∃ after, (connect here there (facing [10, 10, 88])).2.caller =
    some after ∧ after.inbound.unread = [88] := by
  obtain ⟨after, left, held, unread, _, whole⟩ := connect_transparent here there
    (facing [10, 10, 88]) _ (plainBlock 0) [88] (facing_eligible _) rfl rfl (plain_block 0)
    (by decide +kernel)
  rw [whole.mpr ⟨by decide, by decide, by decide, .inl rfl⟩] at unread
  exact ⟨after, held, unread⟩

-- With 31 header lines the blank line is not read any more.
theorem connect_leaves_line : ¬ ∀ (context : Context) (address : SocketAddress) (net : Network)
    (script : ProxyScript) (block payload : Bytes), Eligible context address net →
    net.proxy = some script → script.delivers = block ++ payload → Block block →
    (connect context address net).1 = .returns ⟨0, none⟩ →
    (connect context address net).2.caller.map (·.inbound.unread) = some payload := by
  intro always
  have transparent := always here there (facing (plainBlock 31 ++ [88])) _ (plainBlock 31) [88]
    (facing_eligible _) rfl (by decide +kernel) (plain_block 31) (by decide +kernel)
  revert transparent
  decide +kernel

end Intercept

end ProxyTunnel
