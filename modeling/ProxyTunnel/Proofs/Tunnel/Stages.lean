import ProxyTunnel.Proofs.Network.Replies
import ProxyTunnel.Proofs.Network.Sending
import ProxyTunnel.Proofs.Network.Stalling
import ProxyTunnel.Proofs.Tunnel.Exchange

/-!
The stages of an exchange with the proxy: the descriptor is connected, the request is sent, the head
of the reply is read. The first stage that fails gives the fault of the exchange.
-/

set_option autoImplicit false

namespace ProxyTunnel

theorem ProxyScript.plain_reports (script : ProxyScript) (start : Nat) (plain : script.Plain)
    (p : Patience) (now : Nat) : ¬ (script.inbound start).ReportsTimeOut p now := by
  rintro ⟨rest, time, ⟨read, split, _, _⟩, _, found⟩
  cases rest with
  | nil => exact script.plain_end start plain found
  | cons a rest =>
      have member : a.outcome ∈ script.outcomes := by
        rw [← script.inbound_outcomes start, split]
        simp
      rw [show a.outcome = .failed .timedOut from found] at member
      exact script.plain_outcomes plain member

namespace Network

-- Whether reads wait at all is a matter of the flags, and how long one of the budget, which starts
-- when the request is sent.
def patient (n : Network) (e : Endpoint) (budget : Option Duration) : Patience :=
  n.patience e (budget.map (n.clock + ·.nanos))

theorem send_taken (n : Network) (fd : Holder) (bytes : Bytes) (e : Endpoint)
    (held : n.endpoint fd = some e) (sends : ∀ cause, ¬ e.outbound.Fails bytes.length cause) :
    (n.sendAll fd bytes).1 = some (.ok ()) := by
  have whole : (transmit e.outbound.standing e.outbound.outcomes bytes).failure = none := by
    rw [Option.eq_none_iff_forall_ne_some]
    intro cause failed
    exact sends cause ((transmit_fails_iff _ _ _ cause).mp failed)
  rw [send_held n fd bytes e held]
  exact (sent_all _).mpr whole

theorem talk_unsent (n : Network) (fd : Holder) (budget : Option Duration) (request : Request)
    (e : Endpoint) (cause : Errno) (held : n.endpoint fd = some e)
    (fails : e.outbound.Fails request.bytes.length cause) :
    (n.talk fd budget request).1 =
      .error (if cause = .EINTR then .never else .sendFailed cause) := by
  have failed := (transmit_fails_iff _ _ _ cause).mpr fails
  rw [talk, send_held n fd request.bytes e held]
  by_cases interrupted : cause = .EINTR
  · rw [interrupted] at failed
    rw [(sent_never _).mpr failed, if_pos interrupted]
  · rw [(sent_failed _ cause).mpr ⟨failed, interrupted⟩, if_neg interrupted]

-- What becomes of an exchange whose request is out: it hangs on the head of the reply, unless the
-- clock cannot show its deadline or the head never comes to an end.
def answered (n : Network) (e : Endpoint) (budget : Option Duration) : Except Stop Head :=
  let patience := n.patient e budget
  let head := (e.inbound.readHead patience (n.clock + 1)).1
  if n.overruns budget then .error .panic
  else if e.inbound.stalls patience (n.clock + 1) then .error .never
  else if head.termination = .readError .timedOut then .error (.timeout (budget.getD ⟨0⟩))
  else .ok head

theorem talk_heard (n : Network) (fd : Holder) (budget : Option Duration) (request : Request)
    (e : Endpoint) (held : n.endpoint fd = some e)
    (sent : (n.sendAll fd request.bytes).1 = some (.ok ())) :
    (n.talk fd budget request).1 = n.answered e budget ∧
      (n.overruns budget = false → (n.talk fd budget request).2.clock =
        (e.inbound.readHead (n.patient e budget) (n.clock + 1)).2.1) := by
  obtain ⟨outbound, kept, clock⟩ := send_keeps n fd request.bytes e held
  obtain ⟨_, works, _⟩ := send_works n fd request.bytes
  have barred := works.barred
  rw [talk]
  generalize n.sendAll fd request.bytes = told at sent kept clock barred ⊢
  obtain ⟨result, told⟩ := told
  cases sent
  dsimp only at kept clock barred ⊢
  have shown : told.overruns budget = n.overruns budget := by rw [overruns, clock]; rfl
  have ticked : told.tick.endpoint fd = some { e with outbound } := by rw [← kept]; cases fd <;> rfl
  obtain ⟨heard, _, stop⟩ := read_held told.tick fd (budget.map (told.clock + ·.nanos)) _ ticked
  have patience : told.tick.patience { e with outbound } (budget.map (told.clock + ·.nanos)) =
      n.patient e budget := by
    rw [patient, ← clock, Network.patience, Network.patience, ← barred]
    rfl
  have now : told.tick.clock = n.clock + 1 := congrArg (· + 1) clock
  rw [patience, now] at heard stop
  simp only [answered, shown]
  by_cases overrun : n.overruns budget = true
  · simp [overrun]
  · rw [if_neg overrun, if_neg overrun]
    generalize told.tick.readHead fd (budget.map (told.clock + ·.nanos)) = read at heard stop ⊢
    obtain ⟨found, read⟩ := read
    dsimp only at heard stop ⊢
    rw [heard]
    by_cases stalls : e.inbound.stalls (n.patient e budget) (n.clock + 1) = true
    · rw [if_pos stalls, if_pos stalls]
      exact ⟨rfl, fun _ => stop⟩
    · rw [if_neg stalls, if_neg stalls]
      dsimp only
      split <;> exact ⟨rfl, fun _ => stop⟩

-- No wait under a deadline lasts for ever.
theorem answered_limited (n : Network) (e : Endpoint) (budget : Duration)
    (shown : n.overruns (some budget) = false) :
    let head := (e.inbound.readHead (n.patient e (some budget)) (n.clock + 1)).1
    n.answered e (some budget) =
      if head.termination = .readError .timedOut then .error (.timeout budget) else .ok head := by
  have ends : e.inbound.stalls (n.patient e (some budget)) (n.clock + 1) = false := rfl
  rw [answered, shown, ends]
  rfl

theorem answered_never (n : Network) (e : Endpoint) (budget : Option Duration) :
    n.answered e budget = .error .never ↔ n.overruns budget = false ∧
      e.inbound.stalls (n.patient e budget) (n.clock + 1) = true := by
  rw [answered]
  split_ifs <;> simp_all

theorem answered_panics (n : Network) (e : Endpoint) (budget : Option Duration) :
    n.answered e budget = .error .panic ↔ n.overruns budget = true := by
  rw [answered]
  split_ifs <;> simp_all

theorem answered_ok (n : Network) (e : Endpoint) (budget : Option Duration) (head : Head) :
    n.answered e budget = .ok head ↔ n.overruns budget = false ∧
      e.inbound.stalls (n.patient e budget) (n.clock + 1) = false ∧
      head.termination ≠ .readError .timedOut ∧
      (e.inbound.readHead (n.patient e budget) (n.clock + 1)).1 = head := by
  rw [answered]
  split_ifs with overruns stalls late
  · simp [overruns]
  · simp [overruns, stalls]
  · refine ⟨nofun, ?_⟩
    rintro ⟨_, _, timely, rfl⟩
    exact absurd late timely
  · constructor
    · intro fine
      cases fine
      exact ⟨Bool.eq_false_iff.mpr overruns, Bool.eq_false_iff.mpr stalls, late, rfl⟩
    · rintro ⟨_, _, _, rfl⟩
      rfl

theorem answered_late (n : Network) (e : Endpoint) (budget : Option Duration) (spent : Duration)
    (late : n.answered e budget = .error (.timeout spent)) :
    n.overruns budget = false ∧ spent = budget.getD ⟨0⟩ ∧
      (e.inbound.readHead (n.patient e budget) (n.clock + 1)).1.termination =
        .readError .timedOut := by
  rw [answered] at late
  split at late
  · cases late
  · rename_i shown
    split at late
    · cases late
    · split at late
      · rename_i reported
        cases late
        exact ⟨Bool.eq_false_iff.mpr shown, rfl, reported⟩
      · cases late

theorem talk_timed_out (n : Network) (fd : Holder) (budget : Option Duration) (request : Request)
    (spent : Duration) (late : (n.talk fd budget request).1 = .error (.timeout spent)) :
    ∃ e, n.endpoint fd = some e ∧ spent = budget.getD ⟨0⟩ ∧
      let heard := e.inbound.readHead (n.patient e budget) (n.clock + 1)
      heard.1.termination = .readError .timedOut ∧
        (n.talk fd budget request).2.clock = heard.2.1 := by
  rcases sent : n.sendAll fd request.bytes with ⟨_ | cause | ⟨⟩, told⟩
  · rw [talk, sent] at late
    cases late
  · rw [talk, sent] at late
    cases late
  · cases held : n.endpoint fd with
    | none =>
        have same : told = n := by
          simp only [sendAll, held] at sent
          split at sent
          · exact (congrArg Prod.snd sent).symm
          · cases sent
        have closed : n.tick.endpoint fd = none := by rw [← held]; cases fd <;> rfl
        rw [talk, sent, same] at late
        simp only [readHead, closed] at late
        split at late
        · cases late
        · cases late
    | some e =>
        obtain ⟨ended, stop⟩ :=
          talk_heard n fd budget request e held (congrArg Prod.fst sent)
        rw [ended] at late
        obtain ⟨shown, same, reported⟩ := answered_late n e budget spent late
        exact ⟨e, rfl, same, reported, stop shown⟩

theorem ask_unreached (n : Network) (fd : Holder) (target : Target) (budget : Option Duration)
    (request : Request) (refused : (n.connect fd (.ofBytes target.sockaddr)).1.rc < 0) :
    n.ask fd target budget request =
      (.error (.proxyUnreachable (n.connect fd (.ofBytes target.sockaddr)).1.cause),
        (n.connect fd (.ofBytes target.sockaddr)).2) := by
  rw [ask]
  exact if_pos refused

theorem ask_reached (n : Network) (fd : Holder) (target : Target) (budget : Option Duration)
    (request : Request) (reached : 0 ≤ (n.connect fd (.ofBytes target.sockaddr)).1.rc) :
    n.ask fd target budget request =
      (n.connect fd (.ofBytes target.sockaddr)).2.talk fd budget request := by
  rw [ask]
  exact if_neg (Int.not_lt.mpr reached)

-- The request is not taken whole, for this cause. An interruption is a cause only where it stands
-- for ever.
def Unsent (n : Network) (e : Endpoint) (request : Request) (cause : Errno) : Prop :=
  (n.joined e).outbound.Fails request.bytes.length cause

-- The proxy falls silent without a deadline, and the head of its reply is still open.
def Hangs (n : Network) (e : Endpoint) (budget : Option Duration) : Prop :=
  (n.joined e).inbound.stalls (n.patient (n.joined e) budget) (n.clock + 1) = true

-- The deadline expires before the head of the reply is complete.
def Late (n : Network) (e : Endpoint) (budget : Option Duration) : Prop :=
  (n.joined e).inbound.Expires (n.patient (n.joined e) budget) (n.clock + 1)

-- A wait under a deadline is no wait for ever.
theorem late_ends (n : Network) (e : Endpoint) (budget : Option Duration)
    (late : n.Late e budget) : ¬ n.Hangs e budget := by
  obtain ⟨_, _, _, deadline, limited, _⟩ := late
  rw [Hangs, Inbound.stalls_iff]
  rintro ⟨endless, _⟩
  simp [Patience.endless, limited] at endless

-- A read reports by itself that time has run out, which counts for as much.
def ToldLate (n : Network) (e : Endpoint) (budget : Option Duration) : Prop :=
  (n.joined e).inbound.ReportsTimeOut (n.patient (n.joined e) budget) (n.clock + 1)

theorem plain_untold (n : Network) (e : Endpoint) (budget : Option Duration)
    (script : ProxyScript) (proxy : n.proxy = some script) (stream : e.kind.isStream = true)
    (plain : script.Plain) : ¬ n.ToldLate e budget := by
  rw [ToldLate, joined_reached n e script proxy stream]
  exact script.plain_reports n.clock plain _ _

-- What an exchange hangs for: nobody limits the wait, and the proxy has ended nothing.
theorem hangs_iff (n : Network) (e : Endpoint) (budget : Option Duration) (script : ProxyScript)
    (proxy : n.proxy = some script) (stream : e.kind.isStream = true)
    (waits : e.flags.contains .nonblock = false) :
    n.Hangs e budget ↔
      budget = none ∧ script.ending = .silent ∧ HeadText.Open script.outcomes := by
  rw [Hangs, joined_reached n e script proxy stream, Inbound.stalls_iff]
  have arrivals : (e.attach script n.clock).inbound.arrivals.map (·.outcome) = script.outcomes :=
    script.inbound_outcomes n.clock
  have endless : (n.patient (e.attach script n.clock) budget).endless = true ↔
      budget = none ∧ script.ending ≠ .lapses := by
    have flags : (e.attach script n.clock).flags = e.flags := rfl
    have ending : (e.attach script n.clock).inbound.ending = script.ending := rfl
    cases budget <;> simp [patient, patience, Patience.endless, flags, waits, ending]
  have unready : (e.attach script n.clock).inbound.endReady = none ↔
      script.ending = .silent ∨ script.ending = .lapses := by
    have ending : (e.attach script n.clock).inbound.ending = script.ending := rfl
    cases met : script.ending <;> simp [Inbound.endReady, ending, met]
  rw [arrivals, endless, unready]
  constructor
  · rintro ⟨⟨unlimited, held⟩, silent, opened⟩
    exact ⟨unlimited, silent.resolve_right held, opened⟩
  · rintro ⟨unlimited, silent, opened⟩
    exact ⟨⟨unlimited, by rw [silent]; decide⟩, .inl silent, opened⟩

variable (n : Network) (fd : Holder) (e : Endpoint) (target : Target) (budget : Option Duration)
  (request : Request)

theorem ask_unsent (cause : Errno) (held : n.endpoint fd = some e)
    (reached : 0 ≤ (n.connect fd (.ofBytes target.sockaddr)).1.rc)
    (fails : n.Unsent e request cause) :
    (n.ask fd target budget request).1 =
      .error (if cause = .EINTR then .never else .sendFailed cause) := by
  have joins := (connect_joins n fd (.ofBytes target.sockaddr) e held reached).1
  rw [ask_reached n fd target budget request reached]
  exact talk_unsent _ fd budget request _ cause joins fails

-- What becomes of an exchange whose request is sent hangs on the head of the reply.
theorem ask_sent (held : n.endpoint fd = some e)
    (reached : 0 ≤ (n.connect fd (.ofBytes target.sockaddr)).1.rc)
    (sends : ∀ cause, ¬ n.Unsent e request cause) :
    (n.ask fd target budget request).1 = n.answered (n.joined e) budget := by
  have linking := connect_works n fd (.ofBytes target.sockaddr)
  obtain ⟨joins, clock⟩ := connect_joins n fd (.ofBytes target.sockaddr) e held reached
  have talks :=
    (talk_heard _ fd budget request _ joins (send_taken _ fd request.bytes _ joins sends)).1
  rw [ask_reached n fd target budget request reached, talks]
  have patience : (n.connect fd (.ofBytes target.sockaddr)).2.patient (n.joined e) budget =
      n.patient (n.joined e) budget := by
    rw [patient, patient, clock, Network.patience, Network.patience, linking.barred]
  rw [answered, answered, patience, clock, overruns, clock]
  rfl

theorem ask_overruns (held : n.endpoint fd = some e)
    (reached : 0 ≤ (n.connect fd (.ofBytes target.sockaddr)).1.rc)
    (sends : ∀ cause, ¬ n.Unsent e request cause) (overruns : n.overruns budget = true) :
    (n.ask fd target budget request).1 = .error .panic := by
  rw [ask_sent n fd e target budget request held reached sends, answered]
  exact if_pos overruns

section

variable (held : n.endpoint fd = some e)
  (reached : 0 ≤ (n.connect fd (.ofBytes target.sockaddr)).1.rc)
  (sends : ∀ cause, ¬ n.Unsent e request cause) (shown : n.overruns budget = false)
include held reached sends shown

theorem ask_hangs (hangs : n.Hangs e budget) :
    (n.ask fd target budget request).1 = .error .never := by
  rw [ask_sent n fd e target budget request held reached sends, answered, shown]
  exact if_pos hangs

theorem ask_late (ends : ¬ n.Hangs e budget) (late : n.Late e budget ∨ n.ToldLate e budget) :
    (n.ask fd target budget request).1 = .error (.timeout (budget.getD ⟨0⟩)) := by
  have ended :=
    (Inbound.head_timed_out_iff _ (n.patient (n.joined e) budget) (n.clock + 1)).mpr late
  rw [ask_sent n fd e target budget request held reached sends, answered, shown]
  exact (if_neg ends).trans (if_pos ended)

theorem ask_heard (ends : ¬ n.Hangs e budget) (timely : ¬ n.Late e budget)
    (untold : ¬ n.ToldLate e budget) :
    ∃ head, (n.ask fd target budget request).1 = .ok head := by
  have going :=
    mt (Inbound.head_timed_out_iff _ (n.patient (n.joined e) budget) (n.clock + 1)).mp
      (not_or.mpr ⟨timely, untold⟩)
  rw [ask_sent n fd e target budget request held reached sends, answered, shown]
  exact ⟨_, (if_neg ends).trans (if_neg going)⟩

end

section

variable (held : n.endpoint fd = some e)
include held

-- What an exchange comes to, by the first stage that fails.
theorem ask_cases :
    (n.ask fd target budget request).1 = .error
        (.proxyUnreachable (n.connect fd (.ofBytes target.sockaddr)).1.cause) ∨
      0 ≤ (n.connect fd (.ofBytes target.sockaddr)).1.rc ∧
        ((∃ cause, n.Unsent e request cause ∧ (n.ask fd target budget request).1 =
            .error (if cause = .EINTR then .never else .sendFailed cause)) ∨
          (∀ cause, ¬ n.Unsent e request cause) ∧
            (n.ask fd target budget request).1 = n.answered (n.joined e) budget) := by
  by_cases reached : 0 ≤ (n.connect fd (.ofBytes target.sockaddr)).1.rc
  · by_cases unsent : ∃ cause, n.Unsent e request cause
    · obtain ⟨cause, fails⟩ := unsent
      exact .inr ⟨reached, .inl ⟨cause, fails,
        ask_unsent n fd e target budget request cause held reached fails⟩⟩
    · have sends := not_exists.mp unsent
      exact .inr ⟨reached, .inr ⟨sends, ask_sent n fd e target budget request held reached sends⟩⟩
  · exact .inl (congrArg Prod.fst
      (ask_unreached n fd target budget request (Int.not_le.mp reached)))

theorem ask_never_iff :
    (n.ask fd target budget request).1 = .error .never ↔
      0 ≤ (n.connect fd (.ofBytes target.sockaddr)).1.rc ∧
        (n.Unsent e request .EINTR ∨ ((∀ cause, ¬ n.Unsent e request cause) ∧
          n.overruns budget = false ∧ n.Hangs e budget)) := by
  constructor
  · intro never
    rcases ask_cases n fd e target budget request held with
      ended | ⟨reached, ⟨cause, fails, ended⟩ | ⟨sends, ended⟩⟩
    · cases never.symm.trans ended
    · have same := never.symm.trans ended
      split at same
      · rename_i interrupted
        exact ⟨reached, .inl (interrupted ▸ fails)⟩
      · cases same
    · exact ⟨reached, .inr ⟨sends, (answered_never n _ budget).mp (ended.symm.trans never)⟩⟩
  · rintro ⟨reached, interrupted | ⟨sends, shown, hangs⟩⟩
    · exact ask_unsent n fd e target budget request .EINTR held reached interrupted
    · exact ask_hangs n fd e target budget request held reached sends shown hangs

theorem ask_panics_iff :
    (n.ask fd target budget request).1 = .error .panic ↔
      0 ≤ (n.connect fd (.ofBytes target.sockaddr)).1.rc ∧
        (∀ cause, ¬ n.Unsent e request cause) ∧ n.overruns budget = true := by
  constructor
  · intro panics
    rcases ask_cases n fd e target budget request held with
      ended | ⟨reached, ⟨cause, fails, ended⟩ | ⟨sends, ended⟩⟩
    · cases panics.symm.trans ended
    · have same := panics.symm.trans ended
      split at same <;> cases same
    · exact ⟨reached, sends, (answered_panics n _ budget).mp (ended.symm.trans panics)⟩
  · rintro ⟨reached, sends, overruns⟩
    exact ask_overruns n fd e target budget request held reached sends overruns

theorem ask_heard_iff (head : Head) :
    (n.ask fd target budget request).1 = .ok head ↔
      0 ≤ (n.connect fd (.ofBytes target.sockaddr)).1.rc ∧
        (∀ cause, ¬ n.Unsent e request cause) ∧
        n.answered (n.joined e) budget = .ok head := by
  constructor
  · intro fine
    rcases ask_cases n fd e target budget request held with
      ended | ⟨reached, ⟨cause, fails, ended⟩ | ⟨sends, ended⟩⟩
    · cases fine.symm.trans ended
    · cases fine.symm.trans ended
    · exact ⟨reached, sends, ended.symm.trans fine⟩
  · rintro ⟨reached, sends, ended⟩
    exact (ask_sent n fd e target budget request held reached sends).trans ended

end

end Network

end ProxyTunnel
