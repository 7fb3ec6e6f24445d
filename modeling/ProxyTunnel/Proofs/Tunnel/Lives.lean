import ProxyTunnel.Proofs.Network.Attempts
import ProxyTunnel.Proofs.Tunnel.Guard
import ProxyTunnel.Proofs.Tunnel.Steps

/-!
A stretch in the life of a connection: which descriptor it comes to hold, when it comes to be
connected, and what is sent. Stretches that follow each other make one.
-/

set_option autoImplicit false

namespace ProxyTunnel

namespace Tunnel

open Network

-- How a connection comes to hold a descriptor, with the sockets that are opened on the way.
inductive Holding : Option Holder → List Bool → Option Holder → Prop where
  | keeps (held : Option Holder) : Holding held [] held
  | opens : Holding none [true] (some .engine)

-- How a connection comes to be connected, with what the attempts on the way come to.
inductive Linking : Bool → List ConnectOutcome → Bool → Prop where
  | used : Linking true [] true
  | unused (refusals : List ConnectOutcome) (refused : ∀ o ∈ refusals, o.rc < 0) :
      Linking false refusals false
  | links (refusals : List ConnectOutcome) (refused : ∀ o ∈ refusals, o.rc < 0)
      (last : ConnectOutcome) (reached : 0 ≤ last.rc) : Linking false (refusals ++ [last]) true

theorem holding_trans (a b c : Option Holder) (first second : List Bool)
    (before : Holding a first b) (after : Holding b second c) : Holding a (first ++ second) c := by
  cases before with
  | keeps => exact after
  | opens =>
      cases after with
      | keeps => exact .opens

theorem linking_same (a : Bool) : Linking a [] a := by
  cases a with
  | true => exact .used
  | false => exact .unused [] (by simp)

theorem linking_trans (a b c : Bool) (first second : List ConnectOutcome)
    (before : Linking a first b) (after : Linking b second c) : Linking a (first ++ second) c := by
  cases before with
  | used => exact after
  | unused refusals refused =>
      cases after with
      | unused more again => exact .unused _ (List.forall_mem_append.mpr ⟨refused, again⟩)
      | links more again last reached =>
          rw [← List.append_assoc]
          exact .links _ (List.forall_mem_append.mpr ⟨refused, again⟩) last reached
  | links refusals refused last reached =>
      cases after with
      | used =>
          rw [List.append_nil]
          exact .links refusals refused last reached

section

variable {a b : Bool} {found : List ConnectOutcome} {held last : Option Holder} {opened : List Bool}

theorem linking_unused (linking : Linking a found false) : a = false := by
  cases linking
  rfl

theorem linking_used (linking : Linking true found b) : found = [] ∧ b = true := by
  cases linking
  exact ⟨rfl, rfl⟩

theorem linking_iff (linking : Linking false found b) : b = true ↔ ∃ o ∈ found, 0 ≤ o.rc := by
  cases linking with
  | unused refusals refused =>
      refine ⟨(by cases ·), ?_⟩
      rintro ⟨o, member, reached⟩
      exact absurd reached (Int.not_le.mpr (refused o member))
  | links refusals refused last reached => exact ⟨fun _ => ⟨last, by simp, reached⟩, fun _ => rfl⟩

-- All attempts but the last are refused.
theorem linking_once (linking : Linking a found b) : ∀ o ∈ found.dropLast, o.rc < 0 := by
  cases linking with
  | used => exact List.forall_mem_nil _
  | unused refusals refused => exact fun o member => refused o (List.dropLast_subset _ member)
  | links refusals refused last reached =>
      rw [List.dropLast_concat]
      exact refused

theorem linking_refused (o : ConnectOutcome) (linking : Linking a [o] b) (refused : o.rc < 0) :
    a = false ∧ b = false := by
  cases a with
  | true => cases (linking_used linking).1
  | false =>
      refine ⟨rfl, Bool.eq_false_iff.mpr fun linked => ?_⟩
      obtain ⟨other, member, reached⟩ := (linking_iff linking).mp linked
      rw [List.mem_singleton.mp member] at reached
      exact absurd reached (Int.not_le.mpr refused)

theorem holding_kept {fd : Holder} (holding : Holding held opened last) (same : held = some fd) :
    last = some fd := by
  cases holding with
  | keeps => exact same
  | opens => cases same

theorem holding_before {fd : Holder} (holding : Holding held opened (some fd)) :
    held = some fd ∨ held = none ∧ fd = .engine := by
  cases holding with
  | keeps => exact .inl rfl
  | opens => exact .inr ⟨rfl, rfl⟩

theorem holding_borrows (holding : Holding held opened last) :
    last = some .caller ↔ held = some .caller := by
  cases holding with
  | keeps => exact Iff.rfl
  | opens => simp

theorem holding_sockets (holding : Holding held opened last) (other : held ≠ some .engine) :
    opened = if last = some .engine then [true] else [] := by
  cases holding with
  | keeps => rw [if_neg other]
  | opens => rfl

end

-- Who is connected holds a descriptor, and a socket of the tunnel's own is a stream.
structure Sound (s : Session) : Prop where
  held : s.conn.connected = true → s.conn.holder ≠ none
  own : s.conn.holder = some .engine → s.net.engine.map (·.kind) = some .stream

-- What a stretch that makes these calls can change.
structure Lives (s last : Session) (made : List NativeCall) : Prop where
  calls : last.net.calls = s.net.calls ++ made
  holding : Holding s.conn.holder (sockets made) last.conn.holder
  linking : Linking s.conn.connected (s.net.outcomes made) last.conn.connected
  -- Nothing is sent before there is a connection, and nothing is closed.
  silent : last.conn.connected = false → sent made = []
  unclosed : ∀ fd, .closed fd ∉ made
  -- Attempts are made on the descriptor that is held, to connect to the proxy.
  attempted : ∀ fd address flags closeOnExec, .connected fd address flags closeOnExec ∈ made →
    last.conn.holder = some fd ∧ address = .ofBytes last.conn.target.sockaddr
  target : last.conn.target = s.conn.target
  caller : last.net.caller.map (·.kind) = s.net.caller.map (·.kind)
  reach : last.net.reach = (s.net.reach.dials (s.net.attempts made)).2
  sound : Sound last

variable {s mid last : Session}

theorem sent_append (first second : List NativeCall) :
    sent (first ++ second) = sent first ++ sent second := List.flatMap_append

-- Later attempts are answered as if they were the first of a later stretch.
theorem dials_after (first second : List NativeCall) (before : Lives s mid first) :
    s.net.reach.dials (s.net.attempts (first ++ second)) =
      (s.net.outcomes first ++ mid.net.outcomes second,
        (mid.net.reach.dials (mid.net.attempts second)).2) := by
  have kinds : mid.net.attempts second = s.net.attempts second := by
    rw [attempts, attempts, before.caller]
  have split : s.net.attempts (first ++ second) = s.net.attempts first ++ s.net.attempts second :=
    List.filterMap_append
  rw [split, Reach.dials_append, outcomes, outcomes, kinds, before.reach]

theorem outcomes_after (first second : List NativeCall) (before : Lives s mid first) :
    s.net.outcomes (first ++ second) = s.net.outcomes first ++ mid.net.outcomes second :=
  congrArg Prod.fst (dials_after first second before)

theorem lives_trans (first second : List NativeCall) (before : Lives s mid first)
    (after : Lives mid last second) : Lives s last (first ++ second) := by
  refine ⟨?_, ?_, ?_, ?_, ?_, ?_, after.target.trans before.target,
    after.caller.trans before.caller, ?_, after.sound⟩
  · rw [after.calls, before.calls, List.append_assoc]
  · rw [sockets, List.filterMap_append]
    exact holding_trans _ _ _ _ _ before.holding after.holding
  · rw [outcomes_after first second before]
    exact linking_trans _ _ _ _ _ before.linking after.linking
  · intro unused
    have linking := after.linking
    rw [unused] at linking
    have earlier := linking_unused linking
    rw [sent_append]
    exact List.append_eq_nil_iff.mpr ⟨before.silent earlier, after.silent unused⟩
  · intro fd member
    rcases List.mem_append.mp member with early | late
    · exact before.unclosed fd early
    · exact after.unclosed fd late
  · intro fd address flags closeOnExec member
    rcases List.mem_append.mp member with early | late
    · obtain ⟨held, proxy⟩ := before.attempted fd address flags closeOnExec early
      exact ⟨holding_kept after.holding held, by rw [after.target, proxy]⟩
    · exact after.attempted fd address flags closeOnExec late
  · rw [after.reach, dials_after first second before]

-- Work that makes no calls and leaves the connection alone.
theorem lives_still (net : Network) (sound : Sound s) (still : Still s.net net) :
    Lives s { s with net } [] where
  calls := by rw [still.calls, List.append_nil]
  holding := .keeps _
  linking := linking_same _
  silent _ := rfl
  unclosed _ := List.not_mem_nil
  attempted _ _ _ _ member := absurd member List.not_mem_nil
  target := rfl
  caller := still.kinds .caller
  reach := still.reach
  sound := ⟨sound.held, fun own => (still.kinds .engine).trans (sound.own own)⟩

theorem opened_lives (free : s.conn.holder = none) (room : s.net.refusal = none) :
    Lives s (opened s) [.opened true] := by
  rw [opened, open_socket s.net room]
  constructor
  case calls => rfl
  case holding => rw [free]; exact .opens
  case linking => exact linking_same s.conn.connected
  case silent => exact fun _ => rfl
  case unclosed => simp
  case attempted => simp
  case target => rfl
  case caller => rfl
  case reach => rfl
  case sound => exact ⟨fun _ => by simp, fun _ => rfl⟩

theorem acquired_lives {fd : Holder} (sound : Sound s) (acquired : acquire s = .ok fd mid) :
    ∃ made, Lives s mid made ∧ sent made = [] ∧ s.net.outcomes made = [] := by
  rcases acquired_from acquired with ⟨_, rfl⟩ | ⟨free, room, _, rfl⟩
  · exact ⟨[], lives_still _ sound (still_refl _), rfl, rfl⟩
  · exact ⟨[.opened true], opened_lives free room, rfl, rfl⟩

section

variable {fd : Holder} {outcome : ConnectOutcome} {net : Network}

-- A native connect is the one attempt of its stretch, and decides whether there is a connection.
theorem dialled_attempts (sound : Sound s) (held : s.conn.holder = some fd) (address : SocketAddress)
    (dialled : s.net.connect fd address = (outcome, net)) :
    s.net.reach.dials (s.net.attempts [s.net.connectCall fd address]) = ([outcome], net.reach) := by
  have attempts := connect_attempts s.net fd address (by
    rintro rfl
    exact sound.own held)
  have answer := congrArg Prod.fst (connect_dials s.net fd address)
  have alike := connect_alike s.net fd address
  rw [dialled] at answer alike
  rw [attempts, alike.reach, show outcome = _ from answer]
  rfl

theorem dialled_lives (sound : Sound s) (held : s.conn.holder = some fd)
    (unused : s.conn.connected = false)
    (dialled : s.net.connect fd (.ofBytes s.conn.target.sockaddr) = (outcome, net))
    (remarks : List Remark) :
    Lives s ⟨{ s.conn with connected := decide (0 ≤ outcome.rc) }, net.say remarks⟩
      [s.net.connectCall fd (.ofBytes s.conn.target.sockaddr)] := by
  have worked := connect_works s.net fd (.ofBytes s.conn.target.sockaddr)
  have alike := connect_alike s.net fd (.ofBytes s.conn.target.sockaddr)
  have dials := dialled_attempts sound held _ dialled
  rw [dialled] at worked alike
  constructor
  case calls => exact worked.calls
  case holding => exact .keeps _
  case linking =>
    rw [outcomes, dials, unused]
    by_cases reached : 0 ≤ outcome.rc
    · rw [decide_eq_true reached]
      exact .links [] (List.forall_mem_nil _) outcome reached
    · rw [decide_eq_false reached]
      exact .unused _ (by simpa using reached)
  case silent => exact fun _ => rfl
  case unclosed => simp [connectCall]
  case attempted =>
    intro other address flags closeOnExec member
    cases List.mem_singleton.mp member
    exact ⟨held, rfl⟩
  case target => rfl
  case caller => exact alike.kinds .caller
  case reach => rw [dials]; rfl
  case sound =>
    refine ⟨fun _ => ?_, fun own => (alike.kinds .engine).trans (sound.own own)⟩
    simp [held]

end

-- How a step ended, and the session that it left.
def ending {α : Type} : EStateM.Result Stop Session α → Option Stop × Session
  | .ok _ s => (none, s)
  | .error stop s => (some stop, s)

def stopOf {α : Type} : Except Stop α → Option Stop
  | .ok _ => none
  | .error stop => some stop

theorem ending_result {α : Type} (s : Session) (ended : Except Stop α) :
    ending (result s ended) = (stopOf ended, s) := by
  cases ended <;> rfl

-- The attempt among these, if there is one, failed if and only if a step ended in that fault.
def Answers (attempted : List ConnectOutcome) (stop : Option Stop) : Prop :=
  (∃ o, attempted = [o] ∧ o.rc < 0 ∧ stop = some (.proxyUnreachable o.cause)) ∨
    (∀ o ∈ attempted, 0 ≤ o.rc) ∧ ∀ cause, stop ≠ some (.proxyUnreachable cause)

theorem refused_lives (sound : Sound s) (cause : Errno) : ∃ made,
    Lives s (ending (.error (.socket cause) (refused s cause) : EStateM.Result Stop Session Unit)).2
      made ∧ sent made = [] ∧ Answers (s.net.outcomes made) (some (.socket cause)) :=
  ⟨[], lives_still _ sound (still_leave _ cause), rfl, .inr ⟨List.forall_mem_nil _, by simp⟩⟩

theorem acquire_lives (sound : Sound s) : ∃ made, Lives s (ending (acquire s)).2 made ∧
    sent made = [] ∧ Answers (s.net.outcomes made) (ending (acquire s)).1 := by
  cases acquired : acquire s with
  | error stop t =>
      obtain ⟨cause, _, rfl, rfl⟩ := unacquired acquired
      exact refused_lives sound cause
  | ok fd t =>
      obtain ⟨made, lives, silent, untried⟩ := acquired_lives sound acquired
      exact ⟨made, lives, silent, .inr ⟨by simp [untried], by simp [ending]⟩⟩

theorem connect_lives (sound : Sound s) : ∃ made, Lives s (ending (connect s)).2 made ∧
    sent made = [] ∧ Answers (s.net.outcomes made) (ending (connect s)).1 := by
  rcases connect_cases s with ⟨cause, _, done⟩ | ⟨fd, t, acquired, held, rest⟩
  · rw [done]
    exact refused_lives sound cause
  · obtain ⟨opening, lives, silent, untried⟩ := acquired_lives sound acquired
    rcases rest with ⟨_, done⟩ | ⟨unused, outcome, net, remarks, dialled, ended⟩
    · rw [done]
      exact ⟨opening, lives, silent, .inr ⟨by simp [untried], by simp [ending]⟩⟩
    · have linked := dialled_lives lives.sound held unused dialled
      have attempted := congrArg Prod.fst (dialled_attempts lives.sound held _ dialled)
      have attempts := outcomes_after opening
        [t.net.connectCall fd (.ofBytes t.conn.target.sockaddr)] lives
      rw [untried, show t.net.outcomes _ = [outcome] from attempted] at attempts
      have quiet := sent_append opening [t.net.connectCall fd (.ofBytes t.conn.target.sockaddr)]
      rw [silent] at quiet
      rcases ended with ⟨refused, done⟩ | ⟨reached, done⟩
      · have same : { t.conn with connected := decide (0 ≤ outcome.rc) } = t.conn := by
          rw [decide_eq_false (Int.not_le.mpr refused), ← unused]
        have whole := lives_trans _ _ lives (linked remarks)
        rw [same] at whole
        rw [done]
        exact ⟨_, whole, quiet, .inl ⟨outcome, attempts, refused, rfl⟩⟩
      · have whole := lives_trans _ _ lives (linked [])
        rw [decide_eq_true reached, say_nothing] at whole
        rw [done]
        refine ⟨_, whole, quiet, .inr ⟨?_, by simp [ending]⟩⟩
        rw [attempts]
        simpa using reached

theorem talk_alike (n : Network) (fd : Holder) (budget : Option Duration) (request : Request) :
    Alike n (n.talk fd budget request).2 := by
  have sending := send_alike n fd request.bytes
  rw [talk]
  generalize n.sendAll fd request.bytes = told at sending ⊢
  rcases told with ⟨_ | cause | _, told⟩
  · exact sending
  · exact sending
  dsimp only
  split
  · exact sending
  · have ticked : Alike told told.tick := surroundings_alike told _ _ _ _ _
    have reading := read_alike told.tick fd (budget.map (told.clock + ·.nanos))
    have done := alike_trans _ _ _ sending (alike_trans _ _ _ ticked reading)
    generalize told.tick.readHead fd (budget.map (told.clock + ·.nanos)) = heard at done ⊢
    rcases heard with ⟨_ | head, heard⟩
    · exact done
    · dsimp only
      split <;> exact done

-- What of a request is sent by an exchange that ends so. One that never ends may be sending or
-- reading.
def Delivers (request : Request) (bytes : Bytes) : Option Stop → Prop
  | none => bytes = request.bytes
  | some (.timeout _) => bytes = request.bytes
  | some .panic => bytes = request.bytes
  | some (.sendFailed _) => bytes <+: request.bytes ∧ bytes ≠ request.bytes
  | some .never => bytes <+: request.bytes
  | some _ => bytes = []

theorem talk_delivers (n : Network) (fd : Holder) (budget : Option Duration) (request : Request) :
    ∃ bytes, (n.talk fd budget request).2.received = n.received ++ bytes ∧
      Delivers request bytes (stopOf (n.talk fd budget request).1) ∧
      ∀ cause, stopOf (n.talk fd budget request).1 ≠ some (.proxyUnreachable cause) := by
  obtain ⟨taken, left, received, split, whole⟩ := send_received n fd request.bytes
  rw [talk]
  generalize n.sendAll fd request.bytes = told at received whole ⊢
  rcases told with ⟨_ | cause | _, told⟩
  · exact ⟨taken, received, ⟨left, split⟩, by simp [stopOf]⟩
  · have part : left ≠ [] := fun empty => by cases whole.mpr empty
    refine ⟨taken, received, ⟨⟨left, split⟩, fun same => part ?_⟩, by simp [stopOf]⟩
    rw [← same] at split
    simpa using split
  · have all : taken = request.bytes := by rw [← split, whole.mp rfl, List.append_nil]
    have heard := read_received told.tick fd (budget.map (told.clock + ·.nanos))
    have kept := heard.trans received
    dsimp only
    split
    · exact ⟨taken, received, all, by simp [stopOf]⟩
    generalize told.tick.readHead fd (budget.map (told.clock + ·.nanos)) = read at kept ⊢
    rcases read with ⟨_ | head, read⟩
    · exact ⟨taken, kept, ⟨left, split⟩, by simp [stopOf]⟩
    · dsimp only
      split
      · exact ⟨taken, kept, all, by simp [stopOf]⟩
      · exact ⟨taken, kept, all, by simp [stopOf]⟩

-- Sends and reads open no socket, close nothing and attempt no connect.
theorem talk_plain (n : Network) (fd : Holder) (flags : Option StatusFlags)
    (made : List NativeCall) (talking : ∀ call ∈ made, Talk fd flags call) :
    sockets made = [] ∧ n.outcomes made = [] ∧ n.attempts made = [] ∧
      ∀ other, .closed other ∉ made := by
  have none {α : Type} (f : NativeCall → Option α)
      (absent : ∀ call, Talk fd flags call → f call = Option.none) : made.filterMap f = [] :=
    List.filterMap_eq_nil_iff.mpr fun call member => absent call (talking call member)
  have untried : n.attempts made = [] := none _ (by rintro _ ⟨_, _, rfl | ⟨_, rfl⟩⟩ <;> rfl)
  refine ⟨none _ (by rintro _ ⟨_, _, rfl | ⟨_, rfl⟩⟩ <;> rfl), ?_, untried, ?_⟩
  · rw [outcomes, untried]
    rfl
  · intro other member
    obtain ⟨_, _, same | ⟨_, same⟩⟩ := talking _ member <;> cases same

theorem talk_lives {fd : Holder} (sound : Sound s) (used : s.conn.connected = true)
    (request : Request) (deadline : Option Nat) (remarks : List Remark) :
    let talked := s.net.talk fd s.conn.budget request
    ∃ made, Lives s ⟨{ s.conn with deadline }, talked.2.say remarks⟩ made ∧
      s.net.outcomes made = [] ∧
      Delivers request (sent made) (stopOf talked.1) ∧
      ∀ cause, stopOf talked.1 ≠ some (.proxyUnreachable cause) := by
  intro talked
  obtain ⟨made, worked, talking⟩ := talk_works s.net fd s.conn.budget request
  have alike := talk_alike s.net fd s.conn.budget request
  obtain ⟨bytes, received, delivers, reached⟩ := talk_delivers s.net fd s.conn.budget request
  obtain ⟨unopened, unattempted, untried, unclosed⟩ := talk_plain s.net fd _ made talking
  have same : bytes = sent made := by
    rw [received_sent s.net _ made worked.calls] at received
    exact (List.append_cancel_left received).symm
  refine ⟨made, ?_, unattempted, same ▸ delivers, reached⟩
  constructor
  case calls => exact worked.calls
  case holding => rw [unopened]; exact .keeps _
  case linking => rw [unattempted]; exact linking_same _
  case silent => exact fun unused => absurd used (Bool.eq_false_iff.mp unused)
  case unclosed => exact unclosed
  case attempted =>
    intro other address flags closeOnExec member
    have absent := (outcomes_nil s.net made).mp unattempted other address flags closeOnExec
    exact absurd member absent
  case target => rfl
  case caller => exact alike.kinds .caller
  case reach => rw [untried]; exact alike.reach
  case sound => exact ⟨sound.held, fun own => (alike.kinds .engine).trans (sound.own own)⟩

end Tunnel

end ProxyTunnel
