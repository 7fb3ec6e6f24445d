import Mathlib.Data.List.Forall2
import ProxyTunnel.Proofs.Tunnel.Lives

/-!
The life of a connection, new or borrowed, in which it is used in any order and any number of times:
it holds one descriptor for good, is connected once, and sends its requests one after another.
-/

set_option autoImplicit false

namespace ProxyTunnel

namespace Tunnel

open Network

-- One use of a connection.
inductive Move where
  | acquire
  | connect
  | forceBlocking
  -- The end of a guard that found these flags.
  | release (saved : StatusFlags)
  | exchange (request : Request)

-- A move, and why the process can have no further socket while it is made, if it can not.
structure Turn where
  move : Move
  refusal : Option Errno

def released (saved : StatusFlags) (s : Session) : Session :=
  match s.conn.holder with
  | none => s
  | some fd => { s with net := BlockingGuard.release ⟨fd, saved⟩ s.net }

def Move.run (s : Session) : Move → Option Stop × Session
  | .acquire => ending (Tunnel.acquire s)
  | .connect => ending (Tunnel.connect s)
  | .forceBlocking => ending (Tunnel.forceBlocking s)
  | .release saved => (none, released saved s)
  | .exchange request => ending (Tunnel.exchange request s)

-- What a move that ends so sends.
def Move.Sends (bytes : Bytes) (stop : Option Stop) : Move → Prop
  | .exchange request => Delivers request bytes stop
  | _ => bytes = []

def Move.needsSocket : Move → Bool
  | .release _ => false
  | _ => true

-- A session as a turn meets it.
def Turn.meets (s : Session) (t : Turn) : Session :=
  { s with net := { s.net with refusal := t.refusal } }

def Turn.run (s : Session) (t : Turn) : Option Stop × Session := t.move.run (t.meets s)

-- Turns one after another: how each of them ended, and the session after them. After one that
-- never ends there are no others.
def turns : Session → List Turn → List (Move × Option Stop) × Session
  | s, [] => ([], s)
  | s, t :: rest =>
      match t.run s with
      | (some .never, s) => ([(t.move, some .never)], s)
      | (stop, s) =>
          let (ended, s) := turns s rest
          ((t.move, stop) :: ended, s)

variable {s mid : Session}

theorem guard_still (n : Network) (fd : Holder) : Still n (BlockingGuard.acquire n fd).2 := by
  unfold BlockingGuard.acquire
  split
  · exact still_leave n _
  · rename_i saved _
    have still := set_flags_still n fd (BlockingGuard.cleared saved)
    split
    · generalize n.setFlags fd (BlockingGuard.cleared saved) = set at still ⊢
      rcases set with ⟨_ | _, m⟩
      · exact still
      · exact still_say n m _ still
    · exact still_refl n

theorem release_still (n : Network) (guard : BlockingGuard) : Still n (guard.release n) := by
  unfold BlockingGuard.release
  have still := set_flags_still n guard.fd guard.saved
  split
  · generalize n.setFlags guard.fd guard.saved = set at still ⊢
    rcases set with ⟨_ | _, m⟩
    · exact still_say n m _ still
    · exact still
  · exact still_refl n

theorem native_ending {α : Type} (fault : Errno → Fault)
    (call : Network → Except Errno α × Network) (s : Session) :
    (ending (native fault call s)).2 = { s with net := (call s.net).2 } ∧
      ∀ cause, (∀ e, fault e ≠ .proxyUnreachable cause) →
        (ending (native fault call s)).1 ≠ some (.proxyUnreachable cause) := by
  rw [native]
  rcases call s.net with ⟨cause | a, net⟩
  · exact ⟨rfl, fun _ other same => other cause (Stop.fault.inj (Option.some.inj same))⟩
  · exact ⟨rfl, fun _ _ same => by cases same⟩

theorem force_lives (sound : Sound s) : ∃ made, Lives s (ending (forceBlocking s)).2 made ∧
    sent made = [] ∧ Answers (s.net.outcomes made) (ending (forceBlocking s)).1 := by
  cases acquired : acquire s with
  | error fault t =>
      have unheld := acquire_lives sound
      rw [acquired] at unheld
      rw [forceBlocking, bind_error _ _ _ _ _ acquired]
      exact unheld
  | ok fd t =>
      obtain ⟨made, lives, silent, untried⟩ := acquired_lives sound acquired
      rw [forceBlocking, bind_ok _ _ _ _ _ acquired]
      obtain ⟨left, reached⟩ := native_ending .socket (BlockingGuard.acquire · fd) t
      rw [left]
      have still := lives_still _ lives.sound (guard_still t.net fd)
      refine ⟨made ++ [], lives_trans _ _ lives still, ?_, .inr ⟨?_, fun cause => ?_⟩⟩
      · rw [List.append_nil, silent]
      · rw [List.append_nil, untried]
        exact List.forall_mem_nil _
      · exact reached cause fun _ same => by cases same

theorem exchange_lives (sound : Sound s) (request : Request) : ∃ made,
    Lives s (ending (exchange request s)).2 made ∧
      Delivers request (sent made) (ending (exchange request s)).1 ∧
      Answers (s.net.outcomes made) (ending (exchange request s)).1 := by
  obtain ⟨first, lives, silent, answers⟩ := connect_lives sound
  cases linking : connect s with
  | error fault linked =>
      rw [exchange, bind_error _ _ _ _ _ linking]
      rw [linking] at lives answers
      refine ⟨first, lives, ?_, answers⟩
      rcases connect_fault linking with ⟨cause, rfl | rfl⟩
      · exact silent
      · exact silent
  | ok _ linked =>
      rw [linking] at lives answers
      obtain ⟨used, ⟨fd, held⟩, _⟩ := connect_ready linking
      obtain ⟨deadline, remarks, talks⟩ := exchange_talks request s linked fd linking held
      obtain ⟨later, talked, untried, delivers, reached⟩ :=
        talk_lives lives.sound used request deadline remarks
      rw [talks, ending_result]
      refine ⟨first ++ later, lives_trans _ _ lives talked, ?_, .inr ⟨?_, reached⟩⟩
      · rw [sent_append, silent]
        exact delivers
      · rw [outcomes_after _ _ lives, untried, List.append_nil]
        rcases answers with ⟨_, _, _, same⟩ | ⟨tried, _⟩
        · cases same
        · exact tried

theorem move_lives (sound : Sound s) (move : Move) : ∃ made, Lives s (move.run s).2 made ∧
    move.Sends (sent made) (move.run s).1 ∧ Answers (s.net.outcomes made) (move.run s).1 := by
  cases move with
  | acquire => exact acquire_lives sound
  | connect => exact connect_lives sound
  | forceBlocking => exact force_lives sound
  | release saved =>
      have untried : Answers [] none := .inr ⟨List.forall_mem_nil _, by simp⟩
      rw [Move.run, released]
      cases s.conn.holder with
      | none => exact ⟨[], lives_still _ sound (still_refl _), rfl, untried⟩
      | some fd => exact ⟨[], lives_still _ sound (release_still s.net _), rfl, untried⟩
  | exchange request => exact exchange_lives sound request

theorem move_refused (cause : Errno) (free : s.conn.holder = none)
    (full : s.net.refusal = some cause) (move : Move) (needs : move.needsSocket = true) :
    move.run s = (some (.socket cause), refused s cause) := by
  have failed : Tunnel.acquire s = .error (.socket cause) (refused s cause) := by
    rcases acquire_cases s with ⟨_, held, _⟩ | ⟨other, _, same, done⟩ | ⟨_, room, _⟩
    · rw [free] at held
      cases held
    · rw [full] at same
      cases same
      exact done
    · rw [full] at room
      cases room
  have unlinked := connect_unacquired _ failed
  cases move with
  | acquire => rw [Move.run, failed, ending]
  | connect => rw [Move.run, unlinked, ending]
  | forceBlocking =>
      rw [Move.run, Tunnel.forceBlocking, bind_error _ _ _ _ _ failed, ending]
  | release saved => cases needs
  | exchange request => rw [Move.run, Tunnel.exchange, bind_error _ _ _ _ _ unlinked, ending]

theorem turn_lives (sound : Sound s) (t : Turn) : ∃ made, Lives s (t.run s).2 made ∧
    t.move.Sends (sent made) (t.run s).1 ∧ Answers (s.net.outcomes made) (t.run s).1 := by
  have alike : Alike s.net { s.net with refusal := t.refusal } :=
    ⟨rfl, fun fd => by cases fd <;> rfl⟩
  have still : Lives s (t.meets s) [] := lives_still _ sound ⟨alike, rfl⟩
  obtain ⟨made, lives, sends, answers⟩ := move_lives still.sound t.move
  exact ⟨made, lives_trans [] made still lives, sends, answers⟩

-- What each turn keeps, all of them keep; what they send is what each sends, in order.
theorem turns_live (sound : Sound s) (ts : List Turn) : ∃ made parts,
    Lives s (turns s ts).2 made ∧ sent made = parts.flatten ∧
      List.Forall₂ (fun ended bytes => ended.1.Sends bytes ended.2) (turns s ts).1 parts := by
  induction ts generalizing s with
  | nil => exact ⟨[], [], lives_still _ sound (still_refl _), rfl, .nil⟩
  | cons t rest ih =>
      obtain ⟨first, lives, sends, _⟩ := turn_lives sound t
      rw [turns]
      split
      · rename_i after stuck
        rw [stuck] at lives sends
        exact ⟨first, [sent first], lives, by simp, .cons sends .nil⟩
      · rename_i stop after _ ran
        rw [ran] at lives sends
        obtain ⟨later, parts, follows, split, others⟩ := ih lives.sound
        refine ⟨first ++ later, sent first :: parts, lives_trans _ _ lives follows, ?_,
          .cons sends others⟩
        rw [sent_append, split, List.flatten_cons]

-- Later turns are made after the earlier ones, unless one of these never ends.
theorem turns_append (early late : List Turn) : ∃ rest, (rest = late ∨ rest = []) ∧
    (turns s (early ++ late)).2 = (turns (turns s early).2 rest).2 := by
  induction early generalizing s with
  | nil => exact ⟨late, .inl rfl, rfl⟩
  | cons t early ih =>
      rw [List.cons_append, turns, turns]
      split
      · exact ⟨[], .inr rfl, rfl⟩
      · exact ih

-- The end of a connection closes the socket that it opened, and nothing else.
theorem drop_closes (s : Session) :
    (s.conn.holder = some .engine → s.drop.engine = none ∧
      s.drop.calls = s.net.calls ++ [.closed .engine]) ∧
    (s.conn.holder ≠ some .engine → s.drop = s.net) ∧ s.drop.caller = s.net.caller := by
  rw [Session.drop, Connection.owns]
  refine ⟨?_, ?_, by split <;> rfl⟩
  · intro own
    rw [own]
    exact ⟨rfl, rfl⟩
  · intro other
    rw [if_neg (by simpa using other)]

-- A connection before its first use.
def fresh (owned : Bool) (target : Target) (budget : Option Duration) (net : Network) : Session :=
  ⟨if owned then .owned target budget else .borrowed target budget, net⟩

theorem fresh_holder (owned : Bool) (target : Target) (budget : Option Duration) (net : Network) :
    (fresh owned target budget net).conn.holder = if owned then none else some .caller := by
  cases owned <;> rfl

theorem fresh_sound (owned : Bool) (target : Target) (budget : Option Duration) (net : Network) :
    Sound (fresh owned target budget net) := by
  cases owned <;> exact ⟨nofun, nofun⟩

-- While there is no connection nothing is received.
theorem unlinked_receives {made : List NativeCall} (lives : Lives s mid made)
    (unused : mid.conn.connected = false) : mid.net.received = s.net.received := by
  rw [received_sent _ _ made lives.calls, lives.silent unused, List.append_nil]

theorem turn_unopened {made : List NativeCall} (lives : Lives s mid made) (t : Turn) (cause : Errno)
    (free : mid.conn.holder = none) (full : t.refusal = some cause)
    (needs : t.move.needsSocket = true) : (t.run mid).1 = some (.socket cause) ∧
      (t.run mid).2.conn = mid.conn ∧ (t.run mid).2.net.received = s.net.received := by
  have unused : mid.conn.connected = false :=
    Bool.eq_false_iff.mpr fun used => lives.sound.held used free
  have failed : t.run mid = (some (.socket cause), refused (t.meets mid) cause) :=
    move_refused (s := t.meets mid) cause free full t.move needs
  have received : (refused (t.meets mid) cause).net.received = mid.net.received := rfl
  rw [failed]
  exact ⟨rfl, rfl, received.trans (unlinked_receives lives unused)⟩

-- A native connect that fails leaves its descriptor to the connection, which is not connected.
theorem turn_refused {made : List NativeCall} (lives : Lives s mid made) (t : Turn) : ∃ later,
    (t.run mid).2.net.calls = mid.net.calls ++ later ∧
      Answers (mid.net.outcomes later) (t.run mid).1 ∧
      ∀ cause, (t.run mid).1 = some (.proxyUnreachable cause) → mid.conn.connected = false ∧
        (t.run mid).2.conn.connected = false ∧ (t.run mid).2.net.received = s.net.received ∧
        ∃ fd address flags closeOnExec, .connected fd address flags closeOnExec ∈ later ∧
          (t.run mid).2.conn.holder = some fd ∧
          (mid.conn.holder = some fd ∨ mid.conn.holder = none ∧ fd = .engine) := by
  obtain ⟨later, follows, _, answers⟩ := turn_lives lives.sound t
  refine ⟨later, follows.calls, answers, fun cause unreachable => ?_⟩
  obtain ⟨o, attempted, refused, _⟩ : ∃ o, mid.net.outcomes later = [o] ∧ o.rc < 0 ∧ _ :=
    answers.resolve_right fun reached => reached.2 cause unreachable
  have linking := follows.linking
  rw [attempted] at linking
  obtain ⟨before, after⟩ := linking_refused o linking refused
  have received := unlinked_receives (lives_trans _ _ lives follows) after
  have tried : mid.net.outcomes later ≠ [] := by simp [attempted]
  rw [ne_eq, outcomes_nil] at tried
  simp only [not_forall, not_not] at tried
  obtain ⟨fd, address, flags, closeOnExec, member⟩ := tried
  obtain ⟨held, _⟩ := follows.attempted fd address flags closeOnExec member
  refine ⟨before, after, received, fd, address, flags, closeOnExec, member, held, ?_⟩
  have holding := follows.holding
  rw [held] at holding
  exact holding_before holding

theorem connection_lives (owned : Bool) (target : Target) (budget : Option Duration)
    (net : Network) (early late : List Turn) :
    let start := fresh owned target budget net
    let mid := (turns start early).2
    let last := (turns start (early ++ late)).2
    ∃ before later parts, mid.net.calls = net.calls ++ before ∧
      last.net.calls = mid.net.calls ++ later ∧
      -- A descriptor is held for good, and one socket is opened at most.
      ((∀ fd, mid.conn.holder = some fd → last.conn.holder = some fd) ∧
        (last.conn.holder = some .caller ↔ owned = false) ∧
        sockets (before ++ later) = if last.conn.holder = some .engine then [true] else []) ∧
      -- The first attempt that does not fail connects it, and is the last one.
      ((last.conn.connected = true → last.conn.holder ≠ none) ∧
        (mid.conn.connected = true → last.conn.connected = true ∧
          ∀ fd address flags closeOnExec, .connected fd address flags closeOnExec ∉ later) ∧
        (last.conn.connected = true ↔ ∃ o ∈ net.outcomes (before ++ later), 0 ≤ o.rc) ∧
        ∀ o ∈ (net.outcomes (before ++ later)).dropLast, o.rc < 0) ∧
      -- What is left where no socket is to be had, and where an attempt fails.
      (∀ t : Turn, let (stop, next) := t.run mid
        (∀ cause, mid.conn.holder = none → t.refusal = some cause → t.move.needsSocket = true →
          stop = some (.socket cause) ∧ next.conn = mid.conn ∧
            next.net.received = net.received) ∧
        ∃ made, next.net.calls = mid.net.calls ++ made ∧ Answers (mid.net.outcomes made) stop ∧
          ∀ cause, stop = some (.proxyUnreachable cause) → mid.conn.connected = false ∧
            next.conn.connected = false ∧ next.net.received = net.received ∧
            ∃ fd address flags closeOnExec, .connected fd address flags closeOnExec ∈ made ∧
              next.conn.holder = some fd ∧
              (mid.conn.holder = some fd ∨ mid.conn.holder = none ∧ fd = .engine)) ∧
      -- What the proxy receives is what the exchanges send, in order.
      (last.net.received = net.received ++ parts.flatten ∧
        List.Forall₂ (fun ended bytes => ended.1.Sends bytes ended.2)
          (turns start (early ++ late)).1 parts) ∧
      -- Only the end closes something, and only a socket that was opened.
      (∀ fd, .closed fd ∉ before ++ later) ∧
      (last.conn.holder = some .engine → last.net.engine ≠ none ∧ last.drop.engine = none ∧
        last.drop.calls = last.net.calls ++ [.closed .engine]) ∧
      (last.conn.holder ≠ some .engine → last.drop = last.net) ∧
      (net.caller ≠ none → last.drop.caller ≠ none) := by
  intro start mid last
  obtain ⟨before, _, lives, _, _⟩ := turns_live (fresh_sound owned target budget net) early
  obtain ⟨rest, _, joined⟩ := turns_append (s := start) early late
  obtain ⟨later, _, follows, _, _⟩ := turns_live lives.sound rest
  obtain ⟨made, parts, whole, split, sends⟩ :=
    turns_live (fresh_sound owned target budget net) (early ++ late)
  rw [← joined] at follows
  have all := lives_trans _ _ lives follows
  have same : made = before ++ later := List.append_cancel_left (whole.calls.symm.trans all.calls)
  subst same
  have unused : start.conn.connected = false := by cases owned <;> rfl
  have linking := all.linking
  rw [unused] at linking
  refine ⟨before, later, parts, lives.calls, follows.calls, ⟨?_, ?_, ?_⟩,
    ⟨all.sound.held, ?_, linking_iff linking, linking_once linking⟩, ?_, ⟨?_, sends⟩,
    all.unclosed, ?_, (drop_closes last).2.1, ?_⟩
  · intro fd held
    exact holding_kept follows.holding held
  · rw [holding_borrows all.holding, fresh_holder]
    cases owned <;> simp
  · refine holding_sockets all.holding ?_
    rw [fresh_holder]
    cases owned <;> simp
  · intro used
    have linking := follows.linking
    rw [used] at linking
    obtain ⟨none, linked⟩ := linking_used linking
    exact ⟨linked, (outcomes_nil _ later).mp none⟩
  · intro t
    exact ⟨turn_unopened lives t, turn_refused lives t⟩
  · rw [received_sent _ _ _ all.calls, split]
    rfl
  · intro own
    have kind := all.sound.own own
    obtain ⟨closed, calls⟩ := (drop_closes last).1 own
    refine ⟨fun gone => ?_, closed, calls⟩
    rw [gone] at kind
    cases kind
  · intro borrowed gone
    have kind : last.net.caller.map (·.kind) = net.caller.map (·.kind) := all.caller
    rw [← (drop_closes last).2.2, gone, Option.map_none, eq_comm, Option.map_eq_none_iff] at kind
    exact borrowed kind

-- The request of an exchange that got past its connect and its send.
def passed : Move × Option Stop → Bytes
  | (.exchange request, none) => request.bytes
  | (.exchange request, some (.timeout _)) => request.bytes
  | (.exchange request, some .panic) => request.bytes
  | _ => []

-- A proxy that refuses the first connect, and takes four bytes of what it is sent later.
def reluctant : Session :=
  fresh true ⟨8080, by decide, by decide⟩ none
    { clock := 0, callerNumber := 3, caller := none, engine := none,
      reach := .scripted [⟨-1, .ECONNREFUSED⟩], resolver := .numeric,
      proxy := some ⟨[], .closes, ⟨[.taken 4], some .EPIPE⟩⟩, refusal := none, barred := false,
      errno := default, calls := [], remarks := [] }

-- A connect that fails keeps the socket it opened, and an exchange that fails may have sent a part.
theorem refused_connect_keeps_socket :
    let (stop, next) := Turn.run reluctant ⟨.connect, none⟩
    let (ended, last) := turns reluctant [⟨.connect, none⟩, ⟨.exchange (.resolve "b"), none⟩]
    (stop = some (.proxyUnreachable .ECONNREFUSED) ∧ reluctant.conn.holder = none ∧
      next.conn.holder = some .engine) ∧
    ended.map (·.2) = [some (.proxyUnreachable .ECONNREFUSED), some (.sendFailed .EPIPE)] ∧
      last.net.received = Utf8.encode "RESO" ∧ (ended.map passed).flatten = [] := by
  decide +kernel

end Tunnel

end ProxyTunnel
