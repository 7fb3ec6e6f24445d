import ProxyTunnel.Intercept.Resolve
import ProxyTunnel.Proofs.Network.Expiry
import ProxyTunnel.Proofs.Request.Lines
import ProxyTunnel.Proofs.Tunnel.Stages

/-!
Asking the proxy for a substitute. A socket of the tunnel's own is opened for the question, and the
script of the proxy decides what comes of it: whether the request is taken, whether the reply ends
in time, and what its first `Host` line names.
-/

set_option autoImplicit false

namespace ProxyTunnel

namespace ProxyScript

-- The head that is read off the whole reply.
def head (s : ProxyScript) : Head := (Head.read (s.outcomes ++ [(s.inbound 0).endOutcome])).1

theorem inbound_parsed (s : ProxyScript) (now : Nat) : (s.inbound now).parsed = s.head := by
  rw [Inbound.parsed, inbound_outcomes]
  rfl

-- A request is taken whole.
def Takes (s : ProxyScript) (request : Request) : Prop :=
  ∀ cause, ¬ s.sends.Fails request.bytes.length cause

-- The reply stops before its head is complete, and is not ended either.
def Stalls (s : ProxyScript) : Prop := s.ending = .silent ∧ HeadText.Open s.outcomes

end ProxyScript

namespace Intercept

open Network

-- The substitute that a head names: the value of its first `Host` line, if that can be looked up.
def HostLine (head : Head) (host : Bytes) : Prop :=
  ((HeadText.fields head.stored).find? (·.1 = Utf8.encode "Host")).map (·.2) = some host ∧
    host ≠ [] ∧ (∃ name, Utf8.decode? host = some name) ∧ 0 ∉ host

theorem substitute_line (s : Bytes) (t : Termination) (host : Bytes) :
    substituteIn (HeadText.headOf s t) = some host ↔ HostLine (HeadText.headOf s t) host := by
  have stored : (HeadText.headOf s t).stored = s := rfl
  rw [substituteIn, HeadText.head_get, HostLine, stored]
  cases (HeadText.fields s).find? (·.1 = Utf8.encode "Host") with
  | none => simp
  | some field =>
      rcases field with ⟨key, value⟩
      simp only [Option.bind_some, Option.map_some, Option.some.injEq]
      by_cases empty : value = []
      · rw [if_pos empty]
        exact ⟨(by cases ·), fun line => absurd (line.1.symm.trans empty) line.2.1⟩
      · rw [if_neg empty]
        cases decoded : Utf8.decode? value with
        | none =>
            refine ⟨(by cases ·), ?_⟩
            rintro ⟨rfl, _, ⟨name, named⟩, _⟩
            rw [decoded] at named
            cases named
        | some name =>
            simp only [Utf8.decode_spells value name decoded]
            by_cases cut : 0 ∈ value
            · rw [if_pos cut]
              refine ⟨(by cases ·), ?_⟩
              rintro ⟨rfl, _, _, whole⟩
              exact absurd cut whole
            · rw [if_neg cut]
              constructor
              · intro same
                cases same
                exact ⟨rfl, empty, ⟨name, decoded⟩, cut⟩
              · rintro ⟨rfl, _⟩
                rfl

theorem host_line_iff (stream : List ReadOutcome) (host : Bytes) :
    substituteIn (Head.read stream).1 = some host ↔ HostLine (Head.read stream).1 host := by
  obtain ⟨used, rest, t, _, read, _⟩ := HeadText.read_head stream
  rw [read]
  exact substitute_line (HeadText.text used) t host

-- The socket that a question to the proxy is asked over.
def questioner : Endpoint := .fresh .stream .none true

-- A question gets through to a proxy with this script.
structure Reaches (context : Context) (net : Network) (target : Target) (script : ProxyScript) :
    Prop where
  active : context.target = some target
  room : net.refusal = none
  connects : 0 ≤ (net.reach.dial (some .stream) (.ofBytes target.sockaddr)).1.rc
  proxy : net.proxy = some script

-- The reply is read to its end: the clock can show the deadline, the wait is not refused, and the
-- head is complete or ended before the deadline.
structure Heard (context : Context) (net : Network) (script : ProxyScript) : Prop where
  shown : net.overruns context.budget = false
  pollable : context.budget = none ∨ net.barred = false
  ends : ¬ (context.budget = none ∧ script.Stalls)
  timely : ¬ net.Late questioner context.budget

-- Asking for a name never ends: the request is interrupted for ever, or the reply is waited for
-- without a limit.
def Stuck (context : Context) (name : String) (net : Network) : Prop :=
  ∃ target script, Reaches context net target script ∧
    (script.sends.Fails (Request.resolve name).bytes.length .EINTR ∨
      script.Takes (.resolve name) ∧ context.budget = none ∧ script.Stalls)

-- Asking for a name panics: the clock cannot show when the reply is overdue.
def Overrun (context : Context) (name : String) (net : Network) : Prop :=
  ∃ target script, Reaches context net target script ∧ script.Takes (.resolve name) ∧
    net.overruns context.budget = true

-- The proxy names a substitute.
def Names (context : Context) (name : String) (net : Network) (host : Bytes) : Prop :=
  ∃ target script, Reaches context net target script ∧ script.Takes (.resolve name) ∧
    Heard context net script ∧ HostLine script.head host

-- A read of the reply reports by itself that time has run out.
def Disrupted (net : Network) : Prop :=
  ∃ script, net.proxy = some script ∧ script.head.termination = .readError .timedOut

-- What the end of an exchange is worth.
def found : Except Stop Head → Course (Option Bytes)
  | .ok head => .returns (substituteIn head)
  | .error (.fault _) => .returns none
  | .error .panic => .panics
  | .error .never => .never

-- The socket of an exchange is closed when that has ended.
def visited (net : Network) : Except Stop Head → Network
  | .error .never => net
  | _ => net.close .engine

theorem found_never (ended : Except Stop Head) :
    found ended = .never ↔ ended = .error .never := by
  rcases ended with (fault | _ | _) | head <;> simp [found]

theorem found_panics (ended : Except Stop Head) :
    found ended = .panics ↔ ended = .error .panic := by
  rcases ended with (fault | _ | _) | head <;> simp [found]

theorem found_iff (ended : Except Stop Head) (host : Bytes) :
    found ended = .returns (some host) ↔
      ∃ head, ended = .ok head ∧ substituteIn head = some host := by
  rcases ended with (fault | _ | _) | head <;> simp [found]

section

variable (context : Context) (name : String) (net : Network)

theorem substitute_refused (target : Target) (cause : Errno) (active : context.target = some target)
    (refused : net.refusal = some cause) :
    ∃ remarks, substitute context name net = (.returns none, (net.leave cause).say remarks) := by
  have failed : net.openSocket = (.error cause, net.leave cause) := by
    simp [Network.openSocket, Network.fail, refused]
  have exchanged := Tunnel.exchange_fails (.resolve name) (.owned target context.budget) net _
    cause rfl failed
  simp only [substitute, active, Tunnel.runOn, exchanged]
  exact ⟨_, rfl⟩

theorem substitute_asks (target : Target) (active : context.target = some target)
    (room : net.refusal = none) :
    let asked := net.openSocket.2.ask .engine target context.budget (.resolve name)
    ∃ remarks, substitute context name net =
      (found asked.1, (visited asked.2 asked.1).say remarks) := by
  intro asked
  have opened : net.openSocket = (.ok (), net.openSocket.2) := by simp [Network.openSocket, room]
  obtain ⟨after, remarks, owned, exchanged⟩ := Tunnel.exchange_asks (.resolve name)
    { Connection.owned target context.budget with holder := some .engine } net.openSocket.2 .engine
    rfl rfl
  rw [← Tunnel.exchange_opens (.resolve name) (.owned target context.budget) net _ rfl opened]
    at exchanged
  have ran := Tunnel.run_on_result _ _ _ _ _ exchanged
  have closes : after.owns = true := by rw [Connection.owns, owned]; rfl
  have left : Tunnel.leftBy ⟨after, asked.2.say remarks⟩ asked.1 =
      (visited asked.2 asked.1).say remarks := by
    have dropped :
        Session.drop ⟨after, asked.2.say remarks⟩ = (asked.2.close .engine).say remarks := by
      rw [Session.drop, if_pos closes, Network.close_say]
    rcases asked.1 with (fault | _ | _) | head
    · exact dropped
    · exact dropped
    · rfl
    · exact dropped
  have whole : (Tunnel.exchange (.resolve name)).runOn (.owned target context.budget) net =
      (asked.1, (visited asked.2 asked.1).say remarks) := by
    rw [← left]
    exact ran
  simp only [substitute, active, whole]
  rcases asked.1 with (fault | _ | _) | head
  · simp only [Network.remark, Network.say_append]
    exact ⟨_, rfl⟩
  · exact ⟨remarks, rfl⟩
  · exact ⟨remarks, rfl⟩
  · exact ⟨remarks, rfl⟩

end

section

variable (context : Context) (name : String) (net : Network) (target : Target)
  (room : net.refusal = none)
include room

theorem questioner_held : net.openSocket.2.endpoint .engine = some questioner := by
  rw [open_socket net room]
  rfl

theorem questioner_connects :
    (net.openSocket.2.connect .engine (.ofBytes target.sockaddr)).1 =
      (net.reach.dial (some .stream) (.ofBytes target.sockaddr)).1 := by
  rw [connect_dials, dialOutcome, questioner_held net room, open_socket net room]
  rfl

theorem questioner_answered :
    net.openSocket.2.answered (net.openSocket.2.joined questioner) context.budget =
      net.answered (net.joined questioner) context.budget := by
  rw [open_socket net room]
  rfl

end

-- The proxy that is reached is the one that takes the request, or nobody does.
theorem unsent_iff (net : Network) (name : String) (cause : Errno) :
    net.Unsent questioner (.resolve name) cause ↔
      match net.proxy with
      | some script => script.sends.Fails (Request.resolve name).bytes.length cause
      | none => cause = .EPIPE := by
  rw [Unsent]
  cases proxy : net.proxy with
  | some script => rw [joined_reached net questioner script proxy rfl]; rfl
  | none =>
      have alone : net.joined questioner = questioner := by simp only [joined, proxy]
      obtain ⟨b, rest, written⟩ : ∃ b rest, (Request.resolve name).bytes = b :: rest := by
        rw [Request.resolve_bytes, Request.resolve_text]
        exact ⟨_, _, rfl⟩
      rw [alone, written, List.length_cons]
      exact (Outbound.fails_standing (some .EPIPE) rest.length cause).trans
        ⟨fun same => (Option.some.inj same).symm, fun same => congrArg _ same.symm⟩

section

variable (context : Context) (name : String) (net : Network)

-- Asking comes to nothing unless a proxy is reached.
theorem substitute_ends (ended : Course (Option Bytes)) (other : ended ≠ .returns none) :
    (substitute context name net).1 = ended ↔ ∃ target script, Reaches context net target script ∧
      found (net.openSocket.2.ask .engine target context.budget (.resolve name)).1 = ended := by
  cases active : context.target with
  | none =>
      have passed : (substitute context name net).1 = .returns none := by simp [substitute, active]
      rw [passed]
      refine ⟨fun same => absurd same.symm other, ?_⟩
      rintro ⟨_, _, reaches, _⟩
      cases active.symm.trans reaches.active
  | some target =>
      cases room : net.refusal with
      | some cause =>
          obtain ⟨remarks, refused⟩ :=
            substitute_refused context name net target cause active room
          rw [refused]
          refine ⟨fun same => absurd same.symm other, ?_⟩
          rintro ⟨_, _, reaches, _⟩
          cases room.symm.trans reaches.room
      | none =>
          obtain ⟨remarks, asked⟩ := substitute_asks context name net target active room
          rw [asked]
          constructor
          · intro same
            rcases ask_cases _ .engine questioner target context.budget (.resolve name)
              (questioner_held net room) with failed | ⟨connects, stages⟩
            · rw [failed] at same
              exact absurd same.symm other
            · rw [questioner_connects net target room] at connects
              cases proxy : net.proxy with
              | some script => exact ⟨target, script, ⟨active, room, connects, proxy⟩, same⟩
              | none =>
                  have alone : net.openSocket.2.proxy = none := by
                    rw [open_socket net room]
                    exact proxy
                  have unsent (cause : Errno) := unsent_iff net.openSocket.2 name cause
                  simp only [alone] at unsent
                  rcases stages with ⟨cause, fails, failed⟩ | ⟨sends, _⟩
                  · rw [(unsent cause).mp fails] at failed
                    rw [failed] at same
                    exact absurd same.symm other
                  · exact absurd ((unsent .EPIPE).mpr rfl) (sends .EPIPE)
          · rintro ⟨_, _, reaches, ended⟩
            obtain rfl := Option.some.inj (active.symm.trans reaches.active)
            exact ended

end

-- A head that could not be waited for names nothing.
theorem barred_unnamed (i : Inbound) (p : Patience) (now : Nat) (limited : p.deadline ≠ none)
    (barred : p.barred = true) : substituteIn (i.readHead p now).1 = none := by
  obtain ⟨failure, time, refused⟩ := i.barred_outcomes p now limited barred
  obtain ⟨used, rest, t, split, read, _⟩ := HeadText.read_head [.failed failure]
  have nothing : HeadText.text used = [] := by
    rcases List.prefix_concat_iff.mp (split ▸ List.prefix_append used rest : used <+: [] ++ [_])
      with rfl | part
    · rfl
    · rw [List.prefix_nil.mp part]
      rfl
  change substituteIn (Head.read ((i.outcomes p now).map (·.1))).1 = none
  rw [refused, List.map_cons, List.map_nil, read, nothing]
  rfl

-- A head that names something could be waited for.
theorem named_pollable (context : Context) (net : Network) (e : Endpoint) (i : Inbound) (now : Nat)
    (host : Bytes)
    (named : substituteIn (i.readHead (net.patient e context.budget) now).1 = some host) :
    context.budget = none ∨ net.barred = false := by
  by_contra refused
  rw [not_or, Bool.not_eq_false] at refused
  have unnamed := barred_unnamed i (net.patient e context.budget) now
    (by simpa [patient, patience] using refused.1) refused.2
  cases named.symm.trans unnamed

section

variable {context : Context} {net : Network} {target : Target} {script : ProxyScript}
  (name : String) (reaches : Reaches context net target script)
include reaches

theorem reaches_takes : (∀ cause, ¬ net.openSocket.2.Unsent questioner (.resolve name) cause) ↔
    script.Takes (.resolve name) := by
  have proxy : net.openSocket.2.proxy = some script := by
    rw [open_socket net reaches.room]
    exact reaches.proxy
  refine forall_congr' fun cause => not_congr ?_
  rw [unsent_iff, proxy]

theorem reaches_connects :
    0 ≤ (net.openSocket.2.connect .engine (.ofBytes target.sockaddr)).1.rc := by
  rw [questioner_connects net target reaches.room]
  exact reaches.connects

theorem reaches_hangs : net.Hangs questioner context.budget ↔
    context.budget = none ∧ script.Stalls :=
  net.hangs_iff questioner context.budget script reaches.proxy rfl rfl

theorem reaches_never :
    (net.openSocket.2.ask .engine target context.budget (.resolve name)).1 = .error .never ↔
      script.sends.Fails (Request.resolve name).bytes.length .EINTR ∨
        script.Takes (.resolve name) ∧ context.budget = none ∧ script.Stalls := by
  have proxy : net.openSocket.2.proxy = some script := by
    rw [open_socket net reaches.room]
    exact reaches.proxy
  have hangs : net.openSocket.2.overruns context.budget = false ∧
      net.openSocket.2.Hangs questioner context.budget ↔ context.budget = none ∧ script.Stalls := by
    rw [← reaches_hangs reaches, open_socket net reaches.room]
    constructor
    · exact And.right
    · intro hangs
      refine ⟨?_, hangs⟩
      rw [((reaches_hangs reaches).mp hangs).1]
      rfl
  rw [ask_never_iff _ _ questioner _ _ _ (questioner_held net reaches.room),
    and_iff_right (reaches_connects reaches), unsent_iff, proxy, reaches_takes name reaches, hangs]

theorem reaches_panics :
    (net.openSocket.2.ask .engine target context.budget (.resolve name)).1 = .error .panic ↔
      script.Takes (.resolve name) ∧ net.overruns context.budget = true := by
  rw [ask_panics_iff _ _ questioner _ _ _ (questioner_held net reaches.room),
    and_iff_right (reaches_connects reaches), reaches_takes name reaches, open_socket net reaches.room]
  rfl

theorem reaches_joined : net.joined questioner = questioner.attach script net.clock :=
  joined_reached net questioner script reaches.proxy rfl

-- What is read of a reply that can be waited for, and that is not late, is all of it.
theorem reaches_whole (pollable : context.budget = none ∨ net.barred = false)
    (timely : ¬ net.Late questioner context.budget) :
    ((questioner.attach script net.clock).inbound.readHead
      (net.patient (questioner.attach script net.clock) context.budget) (net.clock + 1)).1 =
        script.head := by
  rw [Late, reaches_joined reaches] at timely
  rw [← script.inbound_parsed net.clock]
  have waits (e : Endpoint) : (net.patient (e.attach script net.clock) context.budget).blocking =
      !e.flags.contains .nonblock := rfl
  exact Inbound.unexpired_parsed _ _ _ (waits questioner)
    (by simpa [patient, patience] using pollable) timely

-- What is heard of a reply is all of it, unless a read reports that time has run out.
theorem reaches_names (host : Bytes) :
    found (net.openSocket.2.ask .engine target context.budget (.resolve name)).1 =
        .returns (some host) ↔
      script.Takes (.resolve name) ∧ Heard context net script ∧
        script.head.termination ≠ .readError .timedOut ∧ HostLine script.head host := by
  have joined := reaches_joined reaches
  have answered := questioner_answered context net reaches.room
  have held := questioner_held net reaches.room
  have named : substituteIn script.head = some host ↔ HostLine script.head host :=
    host_line_iff _ host
  rw [found_iff]
  constructor
  · rintro ⟨head, fine, line⟩
    obtain ⟨_, sends, ended⟩ := (ask_heard_iff _ _ questioner _ _ _ held head).mp fine
    rw [answered, joined, answered_ok] at ended
    obtain ⟨shown, stalls, timely, same⟩ := ended
    rw [← same] at line timely
    have pollable := named_pollable context net _ _ _ host line
    have early : ¬ net.Late questioner context.budget := by
      rw [Late, joined]
      exact fun late => timely ((Inbound.head_timed_out_iff _ _ _).mpr (.inl late))
    rw [reaches_whole reaches pollable early] at line timely
    refine ⟨(reaches_takes name reaches).mp sends, ⟨shown, pollable, ?_, early⟩, timely,
      named.mp line⟩
    rw [← reaches_hangs reaches, Hangs, joined]
    exact Bool.eq_false_iff.mp stalls
  · rintro ⟨takes, heard, timely, line⟩
    refine ⟨script.head, ?_, named.mpr line⟩
    have ends := heard.ends
    rw [← reaches_hangs reaches, Hangs, joined] at ends
    rw [ask_heard_iff _ _ questioner _ _ _ held, answered, joined, answered_ok]
    exact ⟨reaches_connects reaches, (reaches_takes name reaches).mpr takes, heard.shown,
      Bool.eq_false_iff.mpr ends, timely, reaches_whole reaches heard.pollable heard.timely⟩

end

section

variable (context : Context) (name : String) (net : Network)

theorem substitute_never_iff : (substitute context name net).1 = .never ↔
    Stuck context name net := by
  rw [substitute_ends context name net .never nofun, Stuck]
  refine exists_congr fun target => exists_congr fun script => and_congr_right fun reaches => ?_
  rw [found_never, reaches_never name reaches]

theorem substitute_panics_iff : (substitute context name net).1 = .panics ↔
    Overrun context name net := by
  rw [substitute_ends context name net .panics nofun, Overrun]
  refine exists_congr fun target => exists_congr fun script => and_congr_right fun reaches => ?_
  rw [found_panics, reaches_panics name reaches]

theorem substitute_names (host : Bytes) : (substitute context name net).1 = .returns (some host) ↔
    Names context name net host ∧ ¬ Disrupted net := by
  rw [substitute_ends context name net (.returns (some host)) (by simp)]
  constructor
  · rintro ⟨target, script, reaches, named⟩
    obtain ⟨takes, heard, timely, line⟩ := (reaches_names name reaches host).mp named
    refine ⟨⟨target, script, reaches, takes, heard, line⟩, ?_⟩
    rintro ⟨_, proxy, late⟩
    cases proxy.symm.trans reaches.proxy
    exact timely late
  · rintro ⟨⟨target, script, reaches, takes, heard, line⟩, whole⟩
    exact ⟨target, script, reaches, (reaches_names name reaches host).mpr
      ⟨takes, heard, fun late => whole ⟨script, reaches.proxy, late⟩, line⟩⟩

end

end Intercept

end ProxyTunnel
