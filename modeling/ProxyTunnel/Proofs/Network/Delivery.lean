import ProxyTunnel.Proofs.Network.Attempts

/-!
Sending a text by sends that may take a part of it each. Every send is offered what the ones before
it have left, so what is accepted is the text as far as it goes; the first send that fails is the
last one made, and interruptions leave no mark.
-/

set_option autoImplicit false

namespace ProxyTunnel

-- One send: the bytes it is offered, and what it comes to.
structure Offer where
  bytes : Bytes
  outcome : SendOutcome
deriving DecidableEq, Repr

def Offer.taken (o : Offer) : Bytes := o.bytes.take o.outcome.progress

-- What the far end has after these sends.
def accepted (made : List Offer) : Bytes := made.flatMap (·.taken)

-- What a send comes to once the outcomes are used up.
def lateOutcome (standing : Option Errno) (bytes : Bytes) : SendOutcome :=
  match standing with
  | none => .taken bytes.length
  | some cause => .refused cause

-- The sends that are made of a text, one after another.
def offers (standing : Option Errno) : List SendOutcome → Bytes → List Offer
  | _, [] => []
  | [], b :: bytes => [⟨b :: bytes, lateOutcome standing (b :: bytes)⟩]
  | outcome :: rest, b :: bytes =>
      ⟨b :: bytes, outcome⟩ ::
        if outcome.failure? = none then offers standing rest ((b :: bytes).drop outcome.progress)
        else []

-- Outcomes without the interruptions among them.
def calm (outcomes : List SendOutcome) : List SendOutcome :=
  outcomes.filter (· ≠ .refused .EINTR)

def uninterrupted (made : List Offer) : List Offer :=
  made.filter (·.outcome ≠ .refused .EINTR)

-- A send either fails for good, and is the last one, or leaves what it has not taken to the others.
theorem transmit_step (standing : Option Errno) (outcome : SendOutcome) (rest : List SendOutcome)
    (bytes : Bytes) (left : bytes ≠ []) :
    transmit standing (outcome :: rest) bytes =
      match outcome.failure? with
      | some cause => ⟨[], some cause, rest⟩
      | none =>
          let t := transmit standing rest (bytes.drop outcome.progress)
          ⟨bytes.take outcome.progress ++ t.taken, t.failure, t.rest⟩ := by
  obtain ⟨b, bytes, rfl⟩ := List.exists_cons_of_ne_nil left
  cases outcome with
  | taken count => cases count <;> rfl
  | refused cause =>
      by_cases interrupted : cause = .EINTR
      · rw [interrupted]
        rfl
      · rw [SendOutcome.refused_fails cause interrupted, transmit]
        exact interrupted

theorem failure_takes_nothing (outcome : SendOutcome) (cause : Errno)
    (failed : outcome.failure? = some cause) : outcome.progress = 0 := by
  cases outcome with
  | taken count =>
      cases count with
      | zero => rfl
      | succ count => cases failed
  | refused other => rfl

theorem offers_step (standing : Option Errno) (outcome : SendOutcome) (rest : List SendOutcome)
    (bytes : Bytes) (left : bytes ≠ []) :
    offers standing (outcome :: rest) bytes =
      ⟨bytes, outcome⟩ ::
        if outcome.failure? = none then offers standing rest (bytes.drop outcome.progress)
        else [] := by
  obtain ⟨b, bytes, rfl⟩ := List.exists_cons_of_ne_nil left
  rfl

@[simp] theorem accepted_nil : accepted [] = [] := rfl

@[simp] theorem accepted_cons (offer : Offer) (made : List Offer) :
    accepted (offer :: made) = offer.taken ++ accepted made := rfl

@[simp] theorem offers_nothing (standing : Option Errno) (outcomes : List SendOutcome) :
    offers standing outcomes [] = [] := by cases outcomes <;> rfl

@[simp] theorem transmit_nothing (standing : Option Errno) (outcomes : List SendOutcome) :
    transmit standing outcomes [] = ⟨[], none, outcomes⟩ := by simp [transmit]

theorem transmit_offers (standing : Option Errno) (outcomes : List SendOutcome) (bytes : Bytes) :
    let made := offers standing outcomes bytes
    (transmit standing outcomes bytes).taken = accepted made ∧
      (transmit standing outcomes bytes).rest = outcomes.drop made.length := by
  induction outcomes generalizing bytes with
  | nil =>
      cases bytes with
      | nil => simp
      | cons b bytes => cases standing <;> simp [transmit, offers, Offer.taken, lateOutcome,
          SendOutcome.progress]
  | cons outcome rest ih =>
      by_cases nothing : bytes = []
      · simp [nothing]
      · rw [transmit_step standing outcome rest bytes nothing,
          offers_step standing outcome rest bytes nothing]
        cases failed : outcome.failure? with
        | some cause => simp [Offer.taken, failure_takes_nothing outcome cause failed]
        | none =>
            obtain ⟨taken, left⟩ := ih (bytes.drop outcome.progress)
            simp [Offer.taken, taken, left]

-- An interruption is no failure of an offer, even where it stands for ever.
theorem transmit_fails_offer (standing : Option Errno) (outcomes : List SendOutcome)
    (bytes : Bytes) (cause : Errno) :
    ((transmit standing outcomes bytes).failure = some cause ∧ cause ≠ .EINTR) ↔
      ∃ offer ∈ offers standing outcomes bytes, offer.outcome.failure? = some cause := by
  induction outcomes generalizing bytes with
  | nil =>
      cases bytes with
      | nil => simp
      | cons b bytes =>
          cases standing with
          | none => simp [transmit, offers, lateOutcome, SendOutcome.failure?]
          | some refusal =>
              by_cases interrupted : refusal = .EINTR
              · have goes : (SendOutcome.refused .EINTR).failure? = none := rfl
                simp only [interrupted, transmit, offers, lateOutcome, List.mem_singleton,
                  exists_eq_left, goes, Option.some.injEq, reduceCtorEq, iff_false, not_and,
                  not_not]
                exact Eq.symm
              · have failed := SendOutcome.refused_fails refusal interrupted
                simp only [transmit, offers, lateOutcome, List.mem_singleton, exists_eq_left,
                  failed, Option.some.injEq, and_iff_left_iff_imp]
                rintro rfl
                exact interrupted
  | cons outcome rest ih =>
      by_cases nothing : bytes = []
      · simp [nothing]
      · rw [transmit_step standing outcome rest bytes nothing,
          offers_step standing outcome rest bytes nothing]
        cases failed : outcome.failure? with
        | some other =>
            have lasting := outcome.failure_lasts other failed
            simp only [failed, reduceCtorEq, if_false, List.mem_singleton, exists_eq_left,
              Option.some.injEq, and_iff_left_iff_imp]
            rintro rfl
            exact lasting
        | none => simpa [failed] using ih (bytes.drop outcome.progress)

-- The only interruptions that last are those that stand.
theorem interrupted_stands (standing : Option Errno) (outcomes : List SendOutcome) (bytes : Bytes)
    (interrupted : (transmit standing outcomes bytes).failure = some .EINTR) :
    standing = some .EINTR := by
  induction outcomes generalizing bytes with
  | nil =>
      cases bytes with
      | nil => simp at interrupted
      | cons b bytes => cases standing <;> simp_all [transmit]
  | cons outcome rest ih =>
      by_cases nothing : bytes = []
      · simp [nothing] at interrupted
      · rw [transmit_step standing outcome rest bytes nothing] at interrupted
        cases failed : outcome.failure? with
        | some other =>
            have lasting := outcome.failure_lasts other failed
            simp_all
        | none =>
            rw [failed] at interrupted
            exact ih _ interrupted

theorem offers_outcomes (standing : Option Errno) (outcomes : List SendOutcome) (bytes : Bytes) :
    let made := offers standing outcomes bytes
    (made.map (·.outcome)).take outcomes.length = outcomes.take made.length := by
  induction outcomes generalizing bytes with
  | nil => simp
  | cons outcome rest ih =>
      by_cases nothing : bytes = []
      · simp [nothing]
      · rw [offers_step standing outcome rest bytes nothing]
        by_cases goes : outcome.failure? = none
        · simpa [goes] using ih (bytes.drop outcome.progress)
        · simp [goes]

-- The induction is on the outcomes; what is left to send is arbitrary.
theorem offers_in_order (standing : Option Errno) (outcomes : List SendOutcome) (bytes : Bytes)
    (before : List Offer) (offer : Offer) (later : List Offer)
    (split : offers standing outcomes bytes = before ++ offer :: later) :
    accepted before ++ offer.bytes = bytes ∧ offer.bytes ≠ [] ∧
      ∀ b ∈ before, b.outcome.failure? = none := by
  induction outcomes generalizing bytes before with
  | nil =>
      cases bytes with
      | nil => simp at split
      | cons b bytes =>
          rw [offers, List.singleton_eq_append_iff] at split
          obtain ⟨rfl, only⟩ | ⟨_, none⟩ := split
          · obtain ⟨rfl, _⟩ := List.cons.inj only
            simp
          · cases none
  | cons outcome rest ih =>
      by_cases nothing : bytes = []
      · simp [nothing] at split
      · rw [offers_step standing outcome rest bytes nothing, List.cons_eq_append_iff] at split
        obtain ⟨rfl, first⟩ | ⟨before, rfl, others⟩ := split
        · obtain ⟨rfl, _⟩ := List.cons.inj first
          simpa using nothing
        · split_ifs at others with goes
          · obtain ⟨whole, unsent, going⟩ := ih (bytes.drop outcome.progress) before others
            refine ⟨?_, unsent, List.forall_mem_cons.mpr ⟨goes, going⟩⟩
            rw [accepted_cons, List.append_assoc, whole, Offer.taken, List.take_append_drop]
          · simp at others

@[simp] theorem calm_interrupted (rest : List SendOutcome) :
    calm (.refused .EINTR :: rest) = calm rest := rfl

theorem calm_kept (outcome : SendOutcome) (rest : List SendOutcome)
    (kept : outcome ≠ .refused .EINTR) : calm (outcome :: rest) = outcome :: calm rest :=
  List.filter_cons_of_pos (by simpa using kept)

theorem transmit_calm (standing : Option Errno) (outcomes : List SendOutcome) (bytes : Bytes) :
    transmit standing (calm outcomes) bytes =
      let t := transmit standing outcomes bytes
      { t with rest := calm t.rest } := by
  induction outcomes generalizing bytes with
  | nil => cases bytes <;> cases standing <;> rfl
  | cons outcome rest ih =>
      by_cases nothing : bytes = []
      · simp [nothing]
      · rw [transmit_step standing outcome rest bytes nothing]
        by_cases interrupted : outcome = .refused .EINTR
        · simp [interrupted, SendOutcome.failure?, SendOutcome.progress, ih]
        · rw [calm_kept outcome rest interrupted, transmit_step standing outcome _ bytes nothing]
          cases outcome.failure? with
          | some cause => rfl
          | none => simp [ih]

theorem uninterrupted_skipped (offer : Offer) (made : List Offer)
    (interrupted : offer.outcome = .refused .EINTR) :
    uninterrupted (offer :: made) = uninterrupted made :=
  List.filter_cons_of_neg (by simpa using interrupted)

theorem uninterrupted_kept (offer : Offer) (made : List Offer)
    (kept : offer.outcome ≠ .refused .EINTR) :
    uninterrupted (offer :: made) = offer :: uninterrupted made :=
  List.filter_cons_of_pos (by simpa using kept)

theorem offers_calm (standing : Option Errno) (outcomes : List SendOutcome) (bytes : Bytes) :
    uninterrupted (offers standing (calm outcomes) bytes) =
      uninterrupted (offers standing outcomes bytes) := by
  induction outcomes generalizing bytes with
  | nil => rfl
  | cons outcome rest ih =>
      by_cases nothing : bytes = []
      · simp [nothing]
      · rw [offers_step standing outcome rest bytes nothing]
        by_cases interrupted : outcome = .refused .EINTR
        · rw [uninterrupted_skipped _ _ interrupted, interrupted, calm_interrupted, ih]
          rfl
        · rw [calm_kept outcome rest interrupted, offers_step standing outcome _ bytes nothing,
            uninterrupted_kept _ _ interrupted, uninterrupted_kept _ _ interrupted]
          split
          · rw [ih]
          · rfl

theorem progress_kept (outcome : SendOutcome) (goes : outcome.failure? = none)
    (kept : outcome ≠ .refused .EINTR) : 0 < outcome.progress := by
  cases outcome with
  | taken count =>
      cases count with
      | zero => cases goes
      | succ count => exact Nat.succ_pos count
  | refused cause =>
      have lasting : cause ≠ .EINTR := fun same => kept (same ▸ rfl)
      rw [SendOutcome.refused_fails cause lasting] at goes
      cases goes

-- Sends that are not interrupted take a byte each, but for the last one.
theorem offers_few (standing : Option Errno) (outcomes : List SendOutcome) (bytes : Bytes) :
    (uninterrupted (offers standing outcomes bytes)).length ≤ bytes.length := by
  induction outcomes generalizing bytes with
  | nil =>
      cases bytes with
      | nil => simp [uninterrupted]
      | cons b bytes => exact Nat.le_trans (List.length_filter_le _ _) (Nat.le_add_left 1 _)
  | cons outcome rest ih =>
      by_cases nothing : bytes = []
      · simp [nothing, uninterrupted]
      · have unsent : 0 < bytes.length := List.length_pos_iff.mpr nothing
        have fewer := ih (bytes.drop outcome.progress)
        rw [List.length_drop] at fewer
        rw [offers_step standing outcome rest bytes nothing]
        by_cases goes : outcome.failure? = none
        · rw [if_pos goes]
          by_cases interrupted : outcome = .refused .EINTR
          · rw [uninterrupted_skipped _ _ interrupted]
            omega
          · rw [uninterrupted_kept _ _ interrupted, List.length_cons]
            have taken := progress_kept outcome goes interrupted
            omega
        · rw [if_neg goes]
          exact Nat.le_trans (List.length_filter_le _ _) unsent

namespace Network

-- Sending has no result where it is interrupted without end.
theorem send_delivers (n : Network) (fd : Holder) (request : Bytes) :
    let o := n.outbound fd
    let made := offers o.standing o.outcomes request
    let result := (n.sendAll fd request).1
    let after := (n.sendAll fd request).2
    (∀ before offer later, made = before ++ offer :: later →
      accepted before ++ offer.bytes = request ∧ offer.bytes ≠ [] ∧
        ∀ b ∈ before, b.outcome.failure? = none) ∧
      accepted made <+: request ∧
      after.received = n.received ++ accepted made ∧
      (result = some (.ok ()) ↔ accepted made = request) ∧
      (∀ cause, result = some (.error cause) ↔
        ∃ offer ∈ made, offer.outcome.failure? = some cause) ∧
      (result = none ↔ o.standing = some .EINTR ∧ accepted made ≠ request ∧
        ∀ offer ∈ made, offer.outcome.failure? = none) ∧
      (made.map (·.outcome)).take o.outcomes.length = o.outcomes.take made.length ∧
      after.outbound fd = ⟨o.outcomes.drop made.length, o.standing⟩ ∧
      (uninterrupted made).length ≤ request.length ∧
      ∀ m : Network, (m.outbound fd).standing = o.standing →
        calm (m.outbound fd).outcomes = calm o.outcomes →
        uninterrupted (offers (m.outbound fd).standing (m.outbound fd).outcomes request) =
            uninterrupted made ∧
          (m.sendAll fd request).1 = result ∧
          (m.sendAll fd request).2.received = m.received ++ accepted made ∧
          calm ((m.sendAll fd request).2.outbound fd).outcomes =
            calm (after.outbound fd).outcomes := by
  intro o made result after
  obtain ⟨ending, received, outbound⟩ := send_transmits n fd request
  obtain ⟨taken, rest⟩ := transmit_offers o.standing o.outcomes request
  obtain ⟨sent, left, received', whole, complete⟩ := send_received n fd request
  rw [taken] at received
  obtain rfl : accepted made = sent := List.append_cancel_left (received.symm.trans received')
  have delivered : result = some (.ok ()) ↔ accepted made = request := by
    rw [complete, ← whole]
    simp
  have fails (cause : Errno) : result = some (.error cause) ↔
      ∃ offer ∈ made, offer.outcome.failure? = some cause := by
    rw [← transmit_fails_offer o.standing o.outcomes request, ← sent_failed]
    exact Eq.congr_left ending
  refine ⟨offers_in_order o.standing o.outcomes request, ⟨left, whole⟩, received, delivered, fails,
    ?_, offers_outcomes o.standing o.outcomes request, by rw [← rest]; exact outbound,
    offers_few o.standing o.outcomes request, ?_⟩
  · constructor
    · intro never
      refine ⟨?_, fun all => ?_, fun offer member => ?_⟩
      · have interrupted := (sent_never _).mp (ending.symm.trans never)
        exact interrupted_stands o.standing o.outcomes request interrupted
      · cases never.symm.trans (delivered.mpr all)
      · by_contra failing
        obtain ⟨cause, failed⟩ := Option.ne_none_iff_exists'.mp failing
        cases never.symm.trans ((fails cause).mpr ⟨offer, member, failed⟩)
    · rintro ⟨_, short, going⟩
      rcases found : result with _ | cause | _
      · rfl
      · obtain ⟨offer, member, failed⟩ := (fails cause).mp found
        cases (going offer member).symm.trans failed
      · exact absurd (delivered.mp found) short
  · intro m standing same
    obtain ⟨ending', received', outbound'⟩ := send_transmits m fd request
    have calmed := transmit_calm o.standing (m.outbound fd).outcomes request
    rw [same, transmit_calm] at calmed
    obtain ⟨sameTaken, sameFailure, sameRest⟩ := Transmission.mk.inj calmed
    rw [standing] at ending' received' outbound' ⊢
    refine ⟨?_, ?_, ?_, ?_⟩
    · rw [← offers_calm, same, offers_calm]
    · refine ending'.trans (Eq.trans ?_ ending.symm)
      rw [sendResult, sendResult, sameFailure]
    · rw [received', ← sameTaken, taken]
    · rw [outbound', ← sameRest]
      exact (congrArg (calm ·.outcomes) outbound).symm

end Network

example : let made := offers none [.taken 2, .refused .EINTR, .taken 0, .taken 3] [1, 2, 3, 4, 5]
    made.map (·.bytes) = [[1, 2, 3, 4, 5], [3, 4, 5], [3, 4, 5]] ∧ accepted made = [1, 2] := by
  decide

end ProxyTunnel
