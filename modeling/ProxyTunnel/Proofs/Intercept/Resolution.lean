import ProxyTunnel.Proofs.Intercept.Redirection
import ProxyTunnel.Proofs.Intercept.Substitution

/-!
What becomes of an intercepted `getaddrinfo`: whatever the proxy does, the name itself is looked up
unless a substitute for it was found first. Only a proxy that is waited for without a limit keeps
the call from ever returning.
-/

set_option autoImplicit false

namespace ProxyTunnel

-- The codes that answer questions one after another.
def Resolver.answers : Resolver → List Lookup → List Int
  | _, [] => []
  | r, question :: rest => (r.answer question).1 :: (r.answer question).2.answers rest

-- The name that a question is about, if it is a text.
def Lookup.name? (question : Lookup) : Option String := question.node.bind Utf8.decode?

namespace Network

-- The questions that have been looked up.
def questions (n : Network) : List Lookup :=
  n.calls.filterMap fun
    | .lookedUp question _ => some question
    | _ => none

theorem lookup_questions (n : Network) (question : Lookup) :
    (n.lookup question).2.questions = n.questions ++ [question] := by
  simp [lookup, questions, record]

theorem works_questions (n m : Network) (fd : Holder) (made : List NativeCall)
    (worked : Works fd made n m) (silent : ∀ call ∈ made, ∀ question opened,
      call ≠ .lookedUp question opened) : m.questions = n.questions := by
  have none : made.filterMap (fun
      | .lookedUp question _ => some question
      | _ => Option.none) = [] := by
    rw [List.filterMap_eq_nil_iff]
    intro call member
    have other := silent call member
    cases call with
    | lookedUp question opened => exact absurd rfl (other question opened)
    | opened | connected | sent | received | closed | named => rfl
  rw [questions, worked.calls, List.filterMap_append, none, List.append_nil]
  rfl

end Network

namespace Intercept

section

variable (context : Context) (name : String) (net : Network)

-- Asking for a substitute looks nothing up.
theorem substitute_quiet : (substitute context name net).2.questions = net.questions ∧
    (substitute context name net).2.resolver = net.resolver := by
  cases active : context.target with
  | none => simp [substitute, active]
  | some target =>
      cases room : net.refusal with
      | some cause =>
          obtain ⟨remarks, refused⟩ := substitute_refused context name net target cause active room
          rw [refused]
          exact ⟨rfl, rfl⟩
      | none =>
          obtain ⟨remarks, asked⟩ := substitute_asks context name net target active room
          obtain ⟨made, worked, talking⟩ := Network.ask_works net.openSocket.2 .engine target
            context.budget (.resolve name)
          have silent : ∀ call ∈ net.openSocket.2.connectCall .engine (.ofBytes target.sockaddr) ::
              made, ∀ question opened, call ≠ .lookedUp question opened := by
            refine List.forall_mem_cons.mpr ⟨(fun _ _ same => by cases same), ?_⟩
            intro call member question opened same
            obtain ⟨seen, _, rfl | ⟨bytes, rfl⟩⟩ := talking call member <;> cases same
          have kept := Network.works_questions _ _ _ _ worked silent
          have opens : net.openSocket.2.questions = net.questions ∧
              net.openSocket.2.resolver = net.resolver := by
            simp [Network.openSocket, room, Network.questions, Network.record]
          have closes (n : Network) (ended : Except Stop Head) :
              (visited n ended).questions = n.questions ∧
                (visited n ended).resolver = n.resolver := by
            rcases ended with (fault | _ | _) | head <;>
              simp [visited, Network.questions, Network.close, Network.record, Network.setEndpoint]
          obtain ⟨questions, resolver⟩ := closes
            (net.openSocket.2.ask .engine target context.budget (.resolve name)).2
            (net.openSocket.2.ask .engine target context.budget (.resolve name)).1
          rw [asked]
          exact ⟨questions.trans (kept.trans opens.1),
            resolver.trans (worked.resolver.trans opens.2)⟩

variable (said : List Remark) (target : Target) (script : ProxyScript) (host : Bytes)

-- What has been said has no part in what asking comes to.
theorem reaches_say : Reaches context (net.say said) target script ↔
    Reaches context net target script :=
  ⟨fun ⟨active, room, connects, proxy⟩ => ⟨active, room, connects, proxy⟩,
    fun ⟨active, room, connects, proxy⟩ => ⟨active, room, connects, proxy⟩⟩

theorem heard_say : Heard context (net.say said) script ↔ Heard context net script :=
  ⟨fun ⟨shown, pollable, ends, timely⟩ => ⟨shown, pollable, ends, timely⟩,
    fun ⟨shown, pollable, ends, timely⟩ => ⟨shown, pollable, ends, timely⟩⟩

theorem stuck_say : Stuck context name (net.say said) ↔ Stuck context name net := by
  simp only [Stuck, reaches_say]

theorem overrun_say : Overrun context name (net.say said) ↔ Overrun context name net := by
  have overruns : (net.say said).overruns context.budget = net.overruns context.budget := rfl
  simp only [Overrun, reaches_say, overruns]

theorem names_say : Names context name (net.say said) host ↔ Names context name net host := by
  simp only [Names, reaches_say, heard_say]

end

-- The substitute that is found for a node, if its bytes are a text.
def search (context : Context) (node : Bytes) (net : Network) : Course (Option Bytes) × Network :=
  match Utf8.decode? node with
  | none => (.returns none, net)
  | some name => substitute context name net

section

variable (context : Context) (question : Lookup) (node : Bytes) (net : Network)

theorem search_quiet : (search context node net).2.questions = net.questions ∧
    (search context node net).2.resolver = net.resolver := by
  unfold search
  cases Utf8.decode? node with
  | none => exact ⟨rfl, rfl⟩
  | some name => exact substitute_quiet context name net

-- How a search ends that does not just find nothing.
structure Found (ended : Course (Option Bytes)) : Prop where
  never : ended = .never ↔ ∃ name, question.name? = some name ∧ Stuck context name net
  panics : ended = .panics ↔ ∃ name, question.name? = some name ∧ Overrun context name net
  names : ∀ host, ended = .returns (some host) ↔
    (∃ name, question.name? = some name ∧ Names context name net host) ∧ ¬ Disrupted net

theorem unnamed_found (unnamed : question.name? = none) :
    Found context question net (.returns none) := by
  constructor <;> simp [unnamed]

theorem inactive_found (inactive : context.target = none) :
    Found context question net (.returns none) := by
  refine ⟨⟨by simp, ?_⟩, ⟨by simp, ?_⟩, fun host => ⟨by simp, ?_⟩⟩
  · rintro ⟨_, _, _, _, reaches, _⟩
    cases inactive.symm.trans reaches.active
  · rintro ⟨_, _, _, _, reaches, _⟩
    cases inactive.symm.trans reaches.active
  · rintro ⟨⟨_, _, _, _, reaches, _⟩, _⟩
    cases inactive.symm.trans reaches.active

theorem search_found (said : List Remark) (given : question.node = some node) :
    Found context question net (search context node (net.say said)).1 := by
  unfold search
  have asked : question.name? = Utf8.decode? node := by rw [Lookup.name?, given, Option.bind_some]
  cases decoded : Utf8.decode? node with
  | none => exact unnamed_found context question net (asked.trans decoded)
  | some name =>
      have named := asked.trans decoded
      constructor
      · rw [substitute_never_iff, stuck_say]
        simp [named]
      · rw [substitute_panics_iff, overrun_say]
        simp [named]
      · intro host
        rw [substitute_names, names_say]
        simp only [named, Option.some.injEq, exists_eq_left']
        rfl

end

-- What is left of a lookup once it is known which substitute there is.
def settle (found : Course (Option Bytes)) (question : Lookup) (net : Network)
    (complaint : List Remark) : Course Int × Network :=
  match found with
  | .returns none => Course.ofReturn (net.lookup question)
  | .returns (some host) =>
      let (rc, after) := net.lookup { question with node := some host }
      if rc = 0 then (.returns 0, after)
      else Course.ofReturn ((after.say complaint).lookup question)
  | .panics => (.panics, net)
  | .never => (.never, net)

theorem lookup_named_settles (context : Context) (question : Lookup) (node : Bytes)
    (net : Network) : ∃ said shown complaint,
      lookupNamed context question node net =
        settle (search context node (net.say said)).1 question
          ((search context node (net.say said)).2.say shown) complaint := by
  obtain ⟨said, spelled⟩ : ∃ said : List Remark, said = [⟨.debug, .resolve,
    s!"getaddrinfo({Text.quoteName node},{Text.quote (serviceText question.service)})..."⟩] :=
    ⟨_, rfl⟩
  refine ⟨said, ?_⟩
  simp only [lookupNamed, search, Network.remark, ← spelled]
  cases Utf8.decode? node with
  | none => exact ⟨[], [], by simp [settle, Network.say]⟩
  | some name =>
      dsimp only
      rcases (substitute context name (net.say said)).1 with (_ | host) | _ | _
      · exact ⟨[], [], by simp [settle, Network.say]⟩
      · exact ⟨_, _, rfl⟩
      · exact ⟨[], [], by simp [settle, Network.say]⟩
      · exact ⟨[], [], by simp [settle, Network.say]⟩

-- A lookup goes through if there is no name in it or the context is inactive, and settles what a
-- search for a substitute has found otherwise.
theorem getaddrinfo_settles (context : Context) (question : Lookup) (net : Network) :
    (question.node = none ∨ context.target = none) ∧
        getaddrinfo context question net = settle (.returns none) question net [] ∨
      ∃ node said shown complaint, question.node = some node ∧ context.target ≠ none ∧
        getaddrinfo context question net =
          settle (search context node (net.say said)).1 question
            ((search context node (net.say said)).2.say shown) complaint := by
  cases given : question.node with
  | none => exact .inl ⟨.inl rfl, by simp [getaddrinfo, given, settle]⟩
  | some node =>
      cases active : context.target with
      | none =>
          exact .inl ⟨.inr rfl, by simp [getaddrinfo, Context.isActive, active, settle]⟩
      | some target =>
          obtain ⟨said, shown, complaint, settled⟩ :=
            lookup_named_settles context question node net
          have intercepted : getaddrinfo context question net =
              lookupNamed context question node net := by
            simp [getaddrinfo, Context.isActive, active, given]
          exact .inr ⟨node, said, shown, complaint, rfl, by simp, intercepted.trans settled⟩

-- The questions that are looked up, one or two.
def plan (found : Option Bytes) (question : Lookup) (r : Resolver) : List Lookup :=
  match found with
  | none => [question]
  | some host =>
      if (r.answer { question with node := some host }).1 = 0 then
        [{ question with node := some host }]
      else [{ question with node := some host }, question]

theorem plan_asks (found : Option Bytes) (question : Lookup) (r : Resolver) :
    plan found question r = [question] ∨
      ∃ host, plan found question r = [{ question with node := some host }] ∨
        plan found question r = [{ question with node := some host }, question] := by
  cases found with
  | none => exact .inl rfl
  | some host =>
      rw [plan]
      split
      · exact .inr ⟨host, .inl rfl⟩
      · exact .inr ⟨host, .inr rfl⟩

-- The last code is 0, or that of the question itself, put first or after another one.
theorem plan_code (found : Option Bytes) (question : Lookup) (r : Resolver) (rc : Int)
    (answered : (r.answers (plan found question r)).getLast? = some rc) :
    rc = 0 ∨ rc = (r.answer question).1 ∨
      ∃ other, rc = ((r.answer other).2.answer question).1 := by
  cases found with
  | none => exact .inr (.inl (Option.some.inj answered).symm)
  | some host =>
      by_cases fine : (r.answer { question with node := some host }).1 = 0
      · rw [plan, if_pos fine] at answered
        exact .inl ((Option.some.inj answered).symm.trans fine)
      · rw [plan, if_neg fine] at answered
        exact .inr (.inr ⟨_, (Option.some.inj answered).symm⟩)

theorem plan_ends (found : Option Bytes) (question : Lookup) (r : Resolver) (rc : Int)
    (answered : (r.answers (plan found question r)).getLast? = some rc) :
    rc = 0 ∨ (plan found question r).getLast? = some question := by
  cases found with
  | none => exact .inr rfl
  | some host =>
      by_cases fine : (r.answer { question with node := some host }).1 = 0
      · rw [plan, if_pos fine] at answered
        exact .inl ((Option.some.inj answered).symm.trans fine)
      · rw [plan, if_neg fine]
        exact .inr rfl

theorem settle_asks (found : Option Bytes) (question : Lookup) (net : Network)
    (complaint : List Remark) : ∃ rc,
      (settle (.returns found) question net complaint).1 = .returns rc ∧
      (settle (.returns found) question net complaint).2.questions =
        net.questions ++ plan found question net.resolver ∧
      (net.resolver.answers (plan found question net.resolver)).getLast? = some rc := by
  cases found with
  | none => exact ⟨_, rfl, Network.lookup_questions net question, rfl⟩
  | some host =>
      have first := Network.lookup_questions net { question with node := some host }
      by_cases fine : (net.resolver.answer { question with node := some host }).1 = 0
      · have code : (net.lookup { question with node := some host }).1 = 0 := fine
        simp only [plan, settle, if_pos fine, if_pos code]
        exact ⟨0, rfl, first, by simp [Resolver.answers, fine]⟩
      · have code : ¬ (net.lookup { question with node := some host }).1 = 0 := fine
        simp only [plan, settle, if_neg fine, if_neg code]
        rw [Network.lookup_say]
        refine ⟨_, rfl, ?_, by simp [Resolver.answers]; rfl⟩
        have second := Network.lookup_questions (net.lookup { question with node := some host }).2
          question
        rw [first, List.append_assoc] at second
        exact second

-- What a lookup comes to once it is known how the search for a substitute has ended.
def Settled (question : Lookup) (net : Network) (found : Course (Option Bytes))
    (ended : Course Int × Network) : Prop :=
  match found with
  | .returns found => ∃ rc, ended.1 = .returns rc ∧
      ended.2.questions = net.questions ++ plan found question net.resolver ∧
      (net.resolver.answers (plan found question net.resolver)).getLast? = some rc
  | .panics => ended.1 = .panics ∧ ended.2.questions = net.questions
  | .never => ended.1 = .never ∧ ended.2.questions = net.questions

theorem getaddrinfo_plans (context : Context) (question : Lookup) (net : Network) :
    ∃ found, Found context question net found ∧
      Settled question net found (getaddrinfo context question net) := by
  rcases getaddrinfo_settles context question net with
    ⟨unasked, passed⟩ | ⟨node, said, shown, complaint, given, _, settled⟩
  · refine ⟨.returns none, ?_, ?_⟩
    · rcases unasked with unnamed | inactive
      · exact unnamed_found context question net (by simp [Lookup.name?, unnamed])
      · exact inactive_found context question net inactive
    · rw [passed]
      exact settle_asks none question net []
  · obtain ⟨questions, resolver⟩ := search_quiet context node (net.say said)
    refine ⟨_, search_found context question node net said given, ?_⟩
    rw [settled]
    rcases (search context node (net.say said)).1 with found | _ | _
    · obtain ⟨rc, returned, asked, answered⟩ := settle_asks found question
        ((search context node (net.say said)).2.say shown) complaint
      have same : ((search context node (net.say said)).2.say shown).questions =
          net.questions := questions
      have kept : ((search context node (net.say said)).2.say shown).resolver =
          net.resolver := resolver
      rw [same, kept] at asked
      rw [kept] at answered
      exact ⟨rc, returned, asked, answered⟩
    · exact ⟨rfl, questions⟩
    · exact ⟨rfl, questions⟩

theorem getaddrinfo_falls_open (context : Context) (question : Lookup) (net : Network) :
    let ended := getaddrinfo context question net
    (ended.1 = .never ↔ ∃ name, question.name? = some name ∧ Stuck context name net) ∧
    (ended.1 = .panics ↔ ∃ name, question.name? = some name ∧ Overrun context name net) ∧
    (ended.1 = .never ∨ ended.1 = .panics → ended.2.questions = net.questions) ∧
    ∀ rc, ended.1 = .returns rc → ∃ asked, ended.2.questions = net.questions ++ asked ∧
      (net.resolver.answers asked).getLast? = some rc ∧
      (asked = [question] ∨ ∃ host, asked = [{ question with node := some host }] ∨
        asked = [{ question with node := some host }, question]) ∧
      ((∀ name host, question.name? = some name → ¬ Names context name net host) →
        asked = [question]) ∧
      (∀ name host, question.name? = some name → Names context name net host → ¬ Disrupted net →
        let substitute := { question with node := some host }
        ((net.resolver.answer substitute).1 = 0 ∧ asked = [substitute]) ∨
          ((net.resolver.answer substitute).1 ≠ 0 ∧ asked = [substitute, question])) ∧
      (rc ≠ 0 → asked.getLast? = some question) ∧
      ((net.resolver.answer question).1 = 0 →
        (∀ other, ((net.resolver.answer other).2.answer question).1 =
          (net.resolver.answer question).1) → rc = 0) := by
  obtain ⟨search, found, settled⟩ := getaddrinfo_plans context question net
  have never := found.never
  have panics := found.panics
  rcases search with substitute | _ | _
  case panics =>
    obtain ⟨lost, questions⟩ := settled
    simp only [lost]
    exact ⟨by simpa using never, by simpa using panics, fun _ => questions, nofun⟩
  case never =>
    obtain ⟨lost, questions⟩ := settled
    simp only [lost]
    exact ⟨by simpa using never, by simpa using panics, fun _ => questions, nofun⟩
  case returns =>
    obtain ⟨code, returned, questions, answered⟩ := settled
    simp only [returned]
    refine ⟨by simpa using never, by simpa using panics, by simp, ?_⟩
    intro rc same
    cases same
    refine ⟨plan substitute question net.resolver, questions, answered, ?_, ?_, ?_, ?_, ?_⟩
    · exact plan_asks substitute question net.resolver
    · intro unnamed
      cases substitute with
      | none => rfl
      | some host =>
          obtain ⟨⟨name, named, names⟩, _⟩ := (found.names host).mp rfl
          exact absurd names (unnamed name host named)
    · intro name host named names whole
      cases (found.names host).mpr ⟨⟨name, named, names⟩, whole⟩
      by_cases fine : (net.resolver.answer { question with node := some host }).1 = 0
      · exact .inl ⟨fine, if_pos fine⟩
      · exact .inr ⟨fine, if_neg fine⟩
    · intro failed
      exact (plan_ends substitute question net.resolver _ answered).resolve_left failed
    · intro direct steady
      rcases plan_code substitute question net.resolver _ answered with
        fine | first | ⟨other, second⟩
      · exact fine
      · exact first.trans direct
      · exact second.trans ((steady other).trans direct)

def naming (name : String) : Lookup := ⟨some (Utf8.encode name), none, none⟩

def namedReply : Bytes := Utf8.encode "OK\nA: b\nHost: 10.0.0.5\n\n"

-- Such a proxy where every name can be looked up, and one that keeps silent.
def named : Network := { facing namedReply with resolver := .scripted [] }

def unanswered : Network := { silent with resolver := .scripted [] }

theorem named_names : Names here "b" named (Utf8.encode "10.0.0.5") := by
  refine ⟨_, _, ⟨rfl, rfl, by decide, rfl⟩, fun cause => Outbound.fails_never _ cause,
    ⟨rfl, .inl rfl, ?_, ?_⟩, ?_⟩
  · rintro ⟨_, silent, _⟩
    cases silent
  · rintro ⟨_, _, _, _, limited, _⟩
    cases limited
  · exact ⟨by decide +kernel, by decide, ⟨"10.0.0.5", by decide⟩, by decide⟩

theorem getaddrinfo_falls_open_named :
    (getaddrinfo here (naming "b") named).1 = .returns 0 ∧
      (getaddrinfo here (naming "b") named).2.questions = [naming "10.0.0.5"] := by
  have fine : (getaddrinfo here (naming "b") named).1 = .returns 0 := by
    decide +kernel
  obtain ⟨_, _, _, returns⟩ := getaddrinfo_falls_open here (naming "b") named
  obtain ⟨asked, questions, _, _, _, names, _⟩ := returns 0 fine
  have whole : ¬ Disrupted named := by
    rintro ⟨_, same, late⟩
    cases same
    revert late
    decide +kernel
  obtain ⟨_, rfl⟩ | ⟨failed, _⟩ := names "b" _ (Utf8.decode_encode "b") named_names whole
  · exact ⟨fine, questions.trans rfl⟩
  · exact absurd rfl failed

-- A name that can be looked up, and a call that looks nothing up: it waits for ever, or panics.
theorem resolution_lost :
    (unanswered.resolver.answer (naming "b")).1 = 0 ∧
      ((getaddrinfo here (naming "b") unanswered).1 = .never ∧
        (getaddrinfo here (naming "b") unanswered).2.questions = []) ∧
      ((getaddrinfo boundless (naming "b") unanswered).1 = .panics ∧
        (getaddrinfo boundless (naming "b") unanswered).2.questions = []) := by
  decide +kernel

end Intercept

end ProxyTunnel
