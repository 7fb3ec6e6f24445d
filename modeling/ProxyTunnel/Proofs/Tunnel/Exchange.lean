import ProxyTunnel.Proofs.Network.Remarks
import ProxyTunnel.Tunnel.Connection

/-!
An exchange with the proxy as a plain function of the network: connect, send, read a head. A tunnel
that has its descriptor does just that, and says something besides.
-/

set_option autoImplicit false

namespace ProxyTunnel

namespace Network

-- The clock has moved on when it is looked at again.
def tick (n : Network) : Network := { n with clock := n.clock + 1 }

-- A request and the head of its reply over a descriptor that is connected.
def talk (n : Network) (fd : Holder) (budget : Option Duration) (request : Request) :
    Except Stop Head × Network :=
  match n.sendAll fd request.bytes with
  | (none, n) => (.error .never, n)
  | (some (.error cause), n) => (.error (.sendFailed cause), n)
  | (some (.ok ()), n) =>
      if n.overruns budget then (.error .panic, n)
      else
        match n.tick.readHead fd (budget.map (n.clock + ·.nanos)) with
        | (none, m) => (.error .never, m)
        | (some head, m) =>
            if head.termination = .readError .timedOut then
              (.error (.timeout (budget.getD ⟨0⟩)), m)
            else (.ok head, m)

-- The same over a descriptor that is still to be connected.
def ask (n : Network) (fd : Holder) (target : Target) (budget : Option Duration)
    (request : Request) : Except Stop Head × Network :=
  match n.connect fd (.ofBytes target.sockaddr) with
  | (outcome, n) =>
      if outcome.rc < 0 then (.error (.proxyUnreachable outcome.cause), n)
      else n.talk fd budget request

theorem tick_say (n : Network) (remarks : List Remark) :
    (n.say remarks).tick = n.tick.say remarks := rfl

theorem talk_say (n : Network) (remarks : List Remark) (fd : Holder) (budget : Option Duration)
    (request : Request) : (n.say remarks).talk fd budget request =
      ((n.talk fd budget request).1, (n.talk fd budget request).2.say remarks) := by
  rw [talk, talk, send_say]
  rcases n.sendAll fd request.bytes with ⟨_ | cause | _, told⟩
  · rfl
  · rfl
  · have same : (told.say remarks).overruns budget = told.overruns budget := rfl
    simp only [same, tick_say, read_say, say_clock]
    split
    · rfl
    · generalize told.tick.readHead fd (budget.map (told.clock + ·.nanos)) = heard
      rcases heard with ⟨_ | head, heard⟩
      · rfl
      · dsimp only
        split <;> rfl

theorem ask_say (n : Network) (remarks : List Remark) (fd : Holder) (target : Target)
    (budget : Option Duration) (request : Request) : (n.say remarks).ask fd target budget request =
      ((n.ask fd target budget request).1, (n.ask fd target budget request).2.say remarks) := by
  rw [ask, ask, connect_say]
  rcases n.connect fd (.ofBytes target.sockaddr) with ⟨outcome, linked⟩
  simp only [talk_say]
  split <;> rfl

theorem talk_works (n : Network) (fd : Holder) (budget : Option Duration) (request : Request) :
    ∃ made, Works fd made n (n.talk fd budget request).2 ∧
      ∀ call ∈ made, Talk fd ((n.endpoint fd).map (·.flags)) call := by
  obtain ⟨sends, sent, sending⟩ := send_works n fd request.bytes
  rw [talk]
  generalize n.sendAll fd request.bytes = told at sent ⊢
  rcases told with ⟨_ | cause | _, told⟩
  · exact ⟨sends, sent, sending⟩
  · exact ⟨sends, sent, sending⟩
  dsimp only
  split
  · exact ⟨sends, sent, sending⟩
  · have ticked : Works fd [] told told.tick := surroundings_works told fd _ _ _ _ _
    obtain ⟨reads, read, reading⟩ := read_works told.tick fd (budget.map (told.clock + ·.nanos))
    rw [ticked.flags, sent.flags] at reading
    refine ⟨sends ++ reads, ?_, List.forall_mem_append.mpr ⟨sending, reading⟩⟩
    have done := works_trans _ _ _ fd _ _ sent (works_trans _ _ _ fd _ _ ticked read)
    generalize told.tick.readHead fd (budget.map (told.clock + ·.nanos)) = heard at done ⊢
    rcases heard with ⟨_ | head, heard⟩
    · exact done
    · dsimp only
      split <;> exact done

theorem ask_works (n : Network) (fd : Holder) (target : Target) (budget : Option Duration)
    (request : Request) : ∃ made,
      Works fd (n.connectCall fd (.ofBytes target.sockaddr) :: made) n
        (n.ask fd target budget request).2 ∧
      ∀ call ∈ made, Talk fd ((n.endpoint fd).map (·.flags)) call := by
  have linking := connect_works n fd (.ofBytes target.sockaddr)
  rw [ask]
  generalize n.connect fd (.ofBytes target.sockaddr) = linked at linking ⊢
  rcases linked with ⟨outcome, linked⟩
  dsimp only at linking ⊢
  split
  · exact ⟨[], linking, by simp⟩
  · obtain ⟨made, talked, talking⟩ := talk_works linked fd budget request
    rw [linking.flags] at talking
    exact ⟨made, works_trans _ _ _ fd _ _ linking talked, talking⟩

-- The descriptor that an exchange leaves has the flags that it was given.
theorem ask_leaves (n : Network) (fd : Holder) (e : Endpoint) (target : Target)
    (budget : Option Duration) (request : Request) (opened : n.endpoint fd = some e) :
    ∃ last, (n.ask fd target budget request).2.endpoint fd = some last ∧ last.flags = e.flags := by
  obtain ⟨_, worked, _⟩ := ask_works n fd target budget request
  have flags := worked.flags
  rw [opened] at flags
  cases left : (n.ask fd target budget request).2.endpoint fd with
  | none => simp [left] at flags
  | some last => exact ⟨last, rfl, by simpa [left] using flags⟩

-- An exchange that goes through and ends with this head.
structure Replies (n : Network) (fd : Holder) (target : Target) (budget : Option Duration)
    (request : Request) (head : Head) : Prop where
  reached : 0 ≤ (n.connect fd (.ofBytes target.sockaddr)).1.rc
  sent : ((n.connect fd (.ofBytes target.sockaddr)).2.sendAll fd request.bytes).1 =
    some (.ok ())
  shown : n.overruns budget = false
  heard :
    let told := ((n.connect fd (.ofBytes target.sockaddr)).2.sendAll fd request.bytes).2
    (told.tick.readHead fd (budget.map (told.clock + ·.nanos))).1 = some head
  timely : head.termination ≠ .readError .timedOut

-- The clock stands still until the request is out.
theorem overruns_sent (n : Network) (fd : Holder) (address : SocketAddress) (bytes : Bytes)
    (budget : Option Duration) :
    ((n.connect fd address).2.sendAll fd bytes).2.overruns budget = n.overruns budget := by
  rw [overruns, send_clock, connect_clock]
  rfl

theorem ask_replied (n : Network) (fd : Holder) (target : Target) (budget : Option Duration)
    (request : Request) (head : Head) (replies : Replies n fd target budget request head) :
    let told := ((n.connect fd (.ofBytes target.sockaddr)).2.sendAll fd request.bytes).2
    n.ask fd target budget request =
      (.ok head, (told.tick.readHead fd (budget.map (told.clock + ·.nanos))).2) := by
  have reached := replies.reached
  have sent := replies.sent
  have heard := replies.heard
  have shown := replies.shown
  rw [← overruns_sent n fd (.ofBytes target.sockaddr) request.bytes] at shown
  rw [ask]
  generalize n.connect fd (.ofBytes target.sockaddr) = linked at reached sent heard shown ⊢
  rcases linked with ⟨outcome, linked⟩
  dsimp only at reached sent heard shown ⊢
  rw [if_neg (Int.not_lt.mpr reached), talk]
  generalize linked.sendAll fd request.bytes = told at sent heard shown ⊢
  rcases told with ⟨_, told⟩
  cases sent
  dsimp only at heard shown ⊢
  rw [shown, if_neg Bool.false_ne_true]
  generalize told.tick.readHead fd (budget.map (told.clock + ·.nanos)) = read at heard ⊢
  rcases read with ⟨_, read⟩
  cases heard
  exact if_neg replies.timely

theorem talk_ok (n : Network) (fd : Holder) (budget : Option Duration) (request : Request)
    (head : Head) (fine : (n.talk fd budget request).1 = .ok head) :
    let told := (n.sendAll fd request.bytes).2
    (n.sendAll fd request.bytes).1 = some (.ok ()) ∧ told.overruns budget = false ∧
      (told.tick.readHead fd (budget.map (told.clock + ·.nanos))).1 = some head ∧
      head.termination ≠ .readError .timedOut := by
  rw [talk] at fine
  generalize n.sendAll fd request.bytes = told at fine ⊢
  rcases told with ⟨_ | cause | _, told⟩
  · cases fine
  · cases fine
  dsimp only at fine ⊢
  by_cases overruns : told.overruns budget = true
  · rw [if_pos overruns] at fine
    cases fine
  rw [if_neg overruns] at fine
  generalize told.tick.readHead fd (budget.map (told.clock + ·.nanos)) = heard at fine ⊢
  rcases heard with ⟨_ | found, heard⟩
  · cases fine
  dsimp only at fine
  by_cases late : found.termination = .readError .timedOut
  · rw [if_pos late] at fine
    cases fine
  rw [if_neg late] at fine
  cases fine
  exact ⟨rfl, Bool.eq_false_iff.mpr overruns, rfl, late⟩

theorem ask_ok_iff (n : Network) (fd : Holder) (target : Target) (budget : Option Duration)
    (request : Request) (head : Head) :
    (n.ask fd target budget request).1 = .ok head ↔ Replies n fd target budget request head := by
  constructor
  · intro fine
    rw [ask] at fine
    dsimp only at fine
    by_cases refused : (n.connect fd (.ofBytes target.sockaddr)).1.rc < 0
    · rw [if_pos refused] at fine
      cases fine
    rw [if_neg refused] at fine
    obtain ⟨sent, shown, heard, timely⟩ := talk_ok _ fd budget request head fine
    rw [overruns_sent] at shown
    exact ⟨Int.not_lt.mp refused, sent, shown, heard, timely⟩
  · intro replies
    rw [ask_replied n fd target budget request head replies]

-- The patience of reading a reply on a descriptor once a proxy sits at its far end.
def hearing (n : Network) (e : Endpoint) (script : ProxyScript) (budget : Option Duration) :
    Patience :=
  ⟨budget.map (n.clock + ·.nanos), !e.flags.contains .nonblock, n.barred, script.ending = .lapses⟩

-- What an exchange with a proxy that is reached reads, and what it leaves to be read.
theorem ask_reads (n : Network) (fd : Holder) (e : Endpoint) (script : ProxyScript)
    (target : Target) (budget : Option Duration) (request : Request) (head : Head)
    (held : n.endpoint fd = some e) (proxy : n.proxy = some script)
    (stream : e.kind.isStream = true)
    (fine : (n.ask fd target budget request).1 = .ok head) :
    let patience := n.hearing e script budget
    let read := (script.inbound n.clock).readHead patience (n.clock + 1)
    (script.inbound n.clock).stalls patience (n.clock + 1) = false ∧ read.1 = head ∧
      head.termination ≠ .readError .timedOut ∧
      ∃ last, (n.ask fd target budget request).2.endpoint fd = some last ∧
        last.inbound = read.2.2 := by
  have replies := (ask_ok_iff n fd target budget request head).mp fine
  have heard := replies.heard
  obtain ⟨attached, linkedClock⟩ :=
    connect_attaches n fd (.ofBytes target.sockaddr) e script held proxy stream replies.reached
  have linking := connect_works n fd (.ofBytes target.sockaddr)
  rw [ask_replied n fd target budget request head replies]
  generalize (n.connect fd (.ofBytes target.sockaddr)).2 = linked at *
  obtain ⟨outbound, told, toldClock⟩ := send_keeps linked fd request.bytes _ attached
  obtain ⟨_, sending, _⟩ := send_works linked fd request.bytes
  generalize (linked.sendAll fd request.bytes).2 = m at *
  have ticked : m.tick.endpoint fd =
      some { e.attach script n.clock with outbound } := by rw [← told]; cases fd <;> rfl
  obtain ⟨first, second, _⟩ := read_held m.tick fd (budget.map (m.clock + ·.nanos)) _ ticked
  have clock : m.clock = n.clock := toldClock.trans linkedClock
  have barred : m.tick.barred = n.barred := sending.barred.trans linking.barred
  have now : m.tick.clock = n.clock + 1 := congrArg (· + 1) clock
  dsimp only at heard
  rw [first, patience, clock, barred, now] at heard
  rw [patience, clock, barred, now] at second
  rw [clock]
  split at heard
  · cases heard
  · rename_i ends
    exact ⟨Bool.eq_false_iff.mpr ends, Option.some.inj heard, replies.timely, _, second, rfl⟩

end Network

namespace Tunnel

variable {α β : Type}

-- How a step ends that leaves this session.
def result (s : Session) : Except Stop α → EStateM.Result Stop Session α
  | .ok a => .ok a s
  | .error stop => .error stop s

-- What is left of a session when work on it has ended so: it is dropped unless the work never ends.
def leftBy (s : Session) : Except Stop α → Network
  | .error .never => s.net
  | _ => s.drop

-- Nothing is closed that the connection does not own.
theorem left_kept (s : Session) (ended : Except Stop α) (kept : s.conn.owns = false) :
    leftBy s ended = s.net := by
  have dropped : s.drop = s.net := by rw [Session.drop, kept]; rfl
  rcases ended with (fault | _ | _) | a
  · exact dropped
  · exact dropped
  · rfl
  · exact dropped

theorem run_on_result (step : Tunnel α) (conn : Connection) (n : Network) (s : Session)
    (ended : Except Stop α) (ran : step ⟨conn, n⟩ = result s ended) :
    step.runOn conn n = (ended, leftBy s ended) := by
  rw [runOn, ran]
  rcases ended with (fault | _ | _) | a <;> rfl

theorem bind_ok (step : Tunnel α) (next : α → Tunnel β) (s t : Session) (a : α)
    (done : step s = .ok a t) : (step >>= next) s = next a t := by
  simp only [bind, EStateM.bind, done]

theorem bind_error (step : Tunnel α) (next : α → Tunnel β) (s t : Session) (stop : Stop)
    (failed : step s = .error stop t) : (step >>= next) s = .error stop t := by
  simp only [bind, EStateM.bind, failed]

theorem bind_same (step : Tunnel α) (next : α → Tunnel β) (s t : Session)
    (same : step s = step t) : (step >>= next) s = (step >>= next) t := by
  simp only [bind, EStateM.bind, same]

theorem get_run (s : Session) : (get : Tunnel Session) s = .ok s s := rfl

theorem set_run (next s : Session) : (set next : Tunnel PUnit) s = .ok ⟨⟩ next := rfl

theorem modify_run (change : Session → Session) (s : Session) :
    (modify change : Tunnel Unit) s = .ok () (change s) := rfl

theorem remark_run (level : Level) (line : String) (s : Session) :
    remark level line s = .ok () { s with net := s.net.say [⟨level, .transport, line⟩] } := rfl

theorem start_run (s : Session) :
    startBudget s =
      if s.net.overruns s.conn.budget then .error .panic s
      else
        .ok () ⟨{ s.conn with deadline := s.conn.budget.map (s.net.clock + ·.nanos) },
          s.net.tick⟩ := by
  rw [startBudget, bind_ok _ _ s s s (get_run s), bind_ok _ _ s s s (get_run s)]
  by_cases overrun : s.net.overruns s.conn.budget
  · rw [if_pos overrun, if_pos overrun]
    rfl
  · rw [if_neg overrun, if_neg overrun]
    rfl

theorem lasting_ends (call : Network → Option α × Network) (s : Session) (a : α) (net : Network)
    (done : call s.net = (some a, net)) : lasting call s = .ok a { s with net } := by
  rw [lasting, done]

theorem lasting_never (call : Network → Option α × Network) (s : Session) (net : Network)
    (stuck : call s.net = (none, net)) : lasting call s = .error .never { s with net } := by
  rw [lasting, stuck]

theorem read_ends (fd : Holder) (s : Session) (head : Head) (net : Network)
    (read : s.net.readHead fd s.conn.deadline = (some head, net)) :
    readHead fd s = .ok head { s with net } :=
  (bind_ok _ _ s s s (get_run s)).trans
    (lasting_ends (Network.readHead · fd s.conn.deadline) s head net read)

theorem read_never (fd : Holder) (s : Session) (net : Network)
    (stuck : s.net.readHead fd s.conn.deadline = (none, net)) :
    readHead fd s = .error .never { s with net } :=
  (bind_ok _ _ s s s (get_run s)).trans
    (lasting_never (Network.readHead · fd s.conn.deadline) s net stuck)

theorem describe_run (head : Head) (s : Session) :
    describe head s = .ok () { s with net := s.net.say (headRemarks head) } := rfl

theorem native_ok (fault : Errno → Fault) (call : Network → Except Errno α × Network)
    (s : Session) (a : α) (net : Network) (done : call s.net = (.ok a, net)) :
    native fault call s = .ok a { s with net } := by
  rw [native, done]

theorem native_error (fault : Errno → Fault) (call : Network → Except Errno α × Network)
    (s : Session) (cause : Errno) (net : Network) (failed : call s.net = (.error cause, net)) :
    native fault call s = .error (.fault (fault cause)) { s with net } := by
  rw [native, failed]

theorem acquire_held (s : Session) (fd : Holder) (held : s.conn.holder = some fd) :
    acquire s = .ok fd s := by
  rw [acquire, bind_ok _ _ s s s (get_run s), held]
  rfl

theorem acquire_opens (s : Session) (net : Network) (free : s.conn.holder = none)
    (opened : s.net.openSocket = (.ok (), net)) :
    acquire s = .ok .engine ⟨{ s.conn with holder := some .engine }, net⟩ := by
  rw [acquire, bind_ok _ _ s s s (get_run s), free]
  exact (bind_ok _ _ _ _ () (native_ok _ _ s () net opened)).trans
    (bind_ok _ _ _ _ () (modify_run _ _))

theorem acquire_fails (s : Session) (cause : Errno) (net : Network) (free : s.conn.holder = none)
    (failed : s.net.openSocket = (.error cause, net)) :
    acquire s = .error (.socket cause) { s with net } := by
  rw [acquire, bind_ok _ _ s s s (get_run s), free]
  exact bind_error _ _ _ _ _ (native_error _ _ s cause net failed)

theorem connect_held (s : Session) (fd : Holder) (held : s.conn.holder = some fd)
    (unused : s.conn.connected = false) (outcome : ConnectOutcome) (net : Network)
    (dialled : s.net.connect fd (.ofBytes s.conn.target.sockaddr) = (outcome, net)) :
    ∃ remarks, connect s =
      if outcome.rc < 0 then .error (.proxyUnreachable outcome.cause) ⟨s.conn, net.say remarks⟩
      else .ok () ⟨{ s.conn with connected := true }, net⟩ := by
  rw [connect, bind_ok _ _ s s fd (acquire_held s fd held), bind_ok _ _ s s s (get_run s), unused,
    dialled, if_neg (by simp)]
  by_cases refused : outcome.rc < 0
  · have left : net.errno = outcome.cause := by
      have leaves := Network.connect_leaves s.net fd (.ofBytes s.conn.target.sockaddr)
      rw [dialled] at leaves
      exact leaves refused
    simp only [if_pos refused, ← left]
    exact ⟨_, (bind_ok _ _ s { s with net } () (set_run _ s)).trans
      ((bind_ok _ _ _ _ () (remark_run _ _ _)).trans rfl)⟩
  · simp only [if_neg refused]
    exact ⟨[], bind_ok _ _ s { s with net } () (set_run _ s)⟩

-- An exchange from the request on, once there is a connected descriptor for it.
def converse (request : Request) (fd : Holder) : Tunnel Head := do
  send fd request.bytes
  remark .debug
    s!"send({request.verb}) -> {request.path} {request.host} ({request.bytes.length} bytes)"
  startBudget
  let head ← readHead fd
  describe head
  if head.termination = .readError .timedOut then
    throw (.timeout ((← get).conn.budget.getD ⟨0⟩))
  return head

theorem send_run (fd : Holder) (bytes : Bytes) (s : Session) :
    send fd bytes s =
      match s.net.sendAll fd bytes with
      | (none, net) => .error .never { s with net }
      | (some (.error cause), net) => .error (.sendFailed cause) { s with net }
      | (some (.ok ()), net) => .ok () { s with net } := by
  rw [send]
  rcases sent : s.net.sendAll fd bytes with ⟨_ | cause | _, net⟩
  · exact bind_error _ _ _ _ _ (lasting_never (Network.sendAll · fd bytes) s net sent)
  · exact bind_ok _ _ _ _ _ (lasting_ends (Network.sendAll · fd bytes) s _ net sent)
  · exact bind_ok _ _ _ _ _ (lasting_ends (Network.sendAll · fd bytes) s _ net sent)

theorem converse_talks (request : Request) (fd : Holder) (s : Session) : ∃ deadline remarks,
    converse request fd s =
      result ⟨{ s.conn with deadline }, (s.net.talk fd s.conn.budget request).2.say remarks⟩
        (s.net.talk fd s.conn.budget request).1 := by
  have sending := send_run fd request.bytes s
  rcases sent : s.net.sendAll fd request.bytes with ⟨_ | cause | _, told⟩
  · rw [sent] at sending
    refine ⟨s.conn.deadline, [], ?_⟩
    rw [converse, bind_error _ _ _ _ _ sending, Network.talk, sent]
    simp [Network.say, result]
  · rw [sent] at sending
    refine ⟨s.conn.deadline, [], ?_⟩
    rw [converse, bind_error _ _ _ _ _ sending, Network.talk, sent]
    simp [Network.say, result]
  · rw [sent] at sending
    rw [converse, bind_ok _ _ _ _ _ sending, bind_ok _ _ _ _ () (remark_run _ _ _), Network.talk,
      sent]
    dsimp only
    by_cases overrun : told.overruns s.conn.budget = true
    · rw [bind_error _ _ _ _ _ ((start_run _).trans (if_pos overrun)), if_pos overrun]
      exact ⟨s.conn.deadline, _, rfl⟩
    · rw [bind_ok _ _ _ _ () ((start_run _).trans (if_neg overrun)), if_neg overrun]
      simp only [Network.tick_say, Network.say_clock]
      have reading (remarks : List Remark) :=
        Network.read_say told.tick remarks fd (s.conn.budget.map (told.clock + ·.nanos))
      rcases read : told.tick.readHead fd (s.conn.budget.map (told.clock + ·.nanos)) with
        ⟨_ | head, heard⟩
      · simp only [read] at reading
        rw [bind_error _ _ _ _ _ (read_never _ _ _ (reading _)), read]
        exact ⟨_, _, rfl⟩
      · simp only [read] at reading
        rw [bind_ok _ _ _ _ head (read_ends _ _ _ _ (reading _)),
          bind_ok _ _ _ _ () (describe_run _ _), read]
        simp only [Network.say_append]
        by_cases late : head.termination = .readError .timedOut
        · simp only [if_pos late]
          exact ⟨_, _, (bind_ok _ _ _ _ _ (get_run _)).trans rfl⟩
        · simp only [if_neg late]
          exact ⟨_, _, rfl⟩

-- Once the descriptor is connected an exchange is a request and the head of its reply.
theorem exchange_talks (request : Request) (s linked : Session) (fd : Holder)
    (reached : connect s = .ok () linked) (held : linked.conn.holder = some fd) :
    ∃ deadline remarks, exchange request s =
      result ⟨{ linked.conn with deadline },
          (linked.net.talk fd linked.conn.budget request).2.say remarks⟩
        (linked.net.talk fd linked.conn.budget request).1 := by
  rw [exchange, bind_ok _ _ _ _ () reached, bind_ok _ _ _ _ fd (acquire_held linked fd held)]
  by_cases cut : request.truncated = true
  · rw [if_pos cut, bind_ok _ _ _ _ () (remark_run _ _ _)]
    obtain ⟨deadline, remarks, talked⟩ :=
      converse_talks request fd ⟨linked.conn, linked.net.say [_]⟩
    simp only [Network.talk_say, Network.say_append] at talked
    exact ⟨deadline, _, talked⟩
  · rw [if_neg cut]
    exact converse_talks request fd linked

theorem exchange_asks (request : Request) (conn : Connection) (n : Network) (fd : Holder)
    (held : conn.holder = some fd) (unused : conn.connected = false) : ∃ after remarks,
      after.holder = some fd ∧ exchange request ⟨conn, n⟩ =
        result ⟨after, (n.ask fd conn.target conn.budget request).2.say remarks⟩
          (n.ask fd conn.target conn.budget request).1 := by
  rcases dialled : n.connect fd (.ofBytes conn.target.sockaddr) with ⟨outcome, linked⟩
  obtain ⟨said, step⟩ := connect_held ⟨conn, n⟩ fd held unused outcome linked dialled
  rw [Network.ask, dialled]
  by_cases refused : outcome.rc < 0
  · simp only [if_pos refused] at step ⊢
    exact ⟨conn, said, held, bind_error _ _ _ _ _ step⟩
  · simp only [if_neg refused] at step ⊢
    obtain ⟨deadline, remarks, talked⟩ := exchange_talks request _ _ fd step held
    exact ⟨{ conn with connected := true, deadline }, remarks, held, talked⟩

theorem exchange_opens (request : Request) (conn : Connection) (n net : Network)
    (free : conn.holder = none) (opened : n.openSocket = (.ok (), net)) :
    exchange request ⟨conn, n⟩ =
      exchange request ⟨{ conn with holder := some .engine }, net⟩ := by
  refine bind_same _ _ _ _ (bind_same _ _ _ _ ?_)
  rw [acquire_opens ⟨conn, n⟩ net free opened, acquire_held _ .engine rfl]

theorem exchange_fails (request : Request) (conn : Connection) (n net : Network) (cause : Errno)
    (free : conn.holder = none) (failed : n.openSocket = (.error cause, net)) :
    exchange request ⟨conn, n⟩ = .error (.socket cause) ⟨conn, net⟩ :=
  bind_error _ _ _ _ _ (bind_error _ _ _ _ _ (acquire_fails ⟨conn, n⟩ cause net free failed))

end Tunnel

end ProxyTunnel
