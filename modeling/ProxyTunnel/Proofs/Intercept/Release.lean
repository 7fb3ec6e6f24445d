import ProxyTunnel.Proofs.Intercept.Redirection
import ProxyTunnel.Proofs.Intercept.Resolution

/-!
What asking the proxy for a name leaves behind. A socket of its own is opened for the question, and
it is closed again, however the question ends, before anything is looked up. While a question does
not end, nothing is looked up either.
-/

set_option autoImplicit false

namespace ProxyTunnel.Intercept

-- The calls of one visit to the proxy, if it is made at all.
inductive Visit : List NativeCall → Prop where
  | none : Visit []
  | made (address : SocketAddress) (flags : StatusFlags) (talk : List NativeCall)
      (own : ∀ call ∈ talk, Network.Talk .engine (some flags) call) :
      Visit (.opened true :: .connected .engine address (some flags) true :: talk ++
        [.closed .engine])

-- The calls of a visit that does not come to an end.
inductive Pending : List NativeCall → Prop where
  | made (address : SocketAddress) (flags : StatusFlags) (talk : List NativeCall)
      (own : ∀ call ∈ talk, Network.Talk .engine (some flags) call) :
      Pending (.opened true :: .connected .engine address (some flags) true :: talk)

-- These calls have been made, and no socket but that of the caller is open after them.
structure Leaves (net after : Network) (made : List NativeCall) : Prop where
  calls : after.calls = net.calls ++ made
  engine : after.engine = none
  caller : after.caller = net.caller

section

variable (net after last : Network) (first second made : List NativeCall)

theorem leaves_refl (free : net.engine = none) : Leaves net net [] :=
  ⟨(List.append_nil _).symm, free, rfl⟩

theorem leaves_say (remarks : List Remark) (leaves : Leaves net after made) :
    Leaves net (after.say remarks) made :=
  ⟨leaves.calls, leaves.engine, leaves.caller⟩

theorem leaves_trans (before : Leaves net after first) (later : Leaves after last second) :
    Leaves net last (first ++ second) where
  calls := by rw [later.calls, before.calls, List.append_assoc]
  engine := later.engine
  caller := later.caller.trans before.caller

theorem lookup_leaves (question : Lookup) (free : net.engine = none) :
    Leaves net (net.lookup question).2 [.lookedUp question false] where
  calls := by simp [Network.lookup, Network.record, free]
  engine := free
  caller := rfl

end

section

variable (context : Context) (net : Network)

-- The calls of a question to the proxy, by how it ends.
def Asked {α : Type} (ended : Course α × Network) (visit : List NativeCall) : Prop :=
  (ended.1 = .never → Pending visit ∧ ended.2.calls = net.calls ++ visit ∧
    ended.2.caller = net.caller) ∧
  (ended.1 ≠ .never → Visit visit ∧ Leaves net ended.2 visit)

theorem substitute_leaves (name : String) (free : net.engine = none) : ∃ visit,
    (visit ≠ [] ↔ context.target ≠ none ∧ net.refusal = none) ∧
      Asked net (substitute context name net) visit := by
  cases active : context.target with
  | none =>
      refine ⟨[], by simp, ?_⟩
      simp only [substitute, active]
      exact ⟨by simp, fun _ => ⟨.none, leaves_refl net free⟩⟩
  | some target =>
      cases room : net.refusal with
      | some cause =>
          obtain ⟨remarks, refused⟩ := substitute_refused context name net target cause active room
          rw [refused]
          exact ⟨[], by simp, by simp, fun _ => ⟨.none, (List.append_nil _).symm, free, rfl⟩⟩
      | none =>
          obtain ⟨remarks, asked⟩ := substitute_asks context name net target active room
          obtain ⟨talk, worked, talking⟩ := Network.ask_works net.openSocket.2 .engine target
            context.budget (.resolve name)
          have opens := Network.open_socket net room
          have calls := worked.calls
          have caller : _ = net.openSocket.2.caller := worked.others .caller (by simp)
          generalize net.openSocket.2.ask .engine target context.budget (.resolve name) = ended at *
          rw [opens] at talking calls caller
          have made : ended.2.calls = net.calls ++ .opened true ::
              .connected .engine (.ofBytes target.sockaddr) (some .none) true :: talk := by
            rw [calls]
            simp [Network.record, Network.connectCall, Network.endpoint, Endpoint.fresh]
          rw [asked]
          by_cases never : ended.1 = .error .never
          · have waits : visited ended.2 ended.1 = ended.2 := by rw [never]; rfl
            refine ⟨_, by simp, fun _ => ⟨.made (.ofBytes target.sockaddr) .none talk talking, ?_⟩,
              fun ends => absurd ((found_never _).mpr never) ends⟩
            rw [waits]
            exact ⟨made, caller⟩
          · have closes : visited ended.2 ended.1 = ended.2.close .engine := by
              rcases ended with ⟨(fault | _ | _) | head, after⟩ <;> first | rfl | contradiction
            refine ⟨_, by simp, fun ends => absurd ((found_never _).mp ends) never,
              fun _ => ⟨.made (.ofBytes target.sockaddr) .none talk talking, ?_⟩⟩
            rw [closes]
            refine leaves_say _ _ _ remarks ⟨?_, rfl, caller⟩
            have closed : (ended.2.close .engine).calls = ended.2.calls ++ [.closed .engine] := rfl
            rw [closed, made]
            simp

theorem search_leaves (node : Bytes) (free : net.engine = none) : ∃ visit,
    (visit ≠ [] ↔
      context.target ≠ none ∧ net.refusal = none ∧ ∃ name, Utf8.decode? node = some name) ∧
    Asked net (search context node net) visit := by
  unfold search
  cases Utf8.decode? node with
  | none => exact ⟨[], by simp, by simp, fun _ => ⟨.none, leaves_refl net free⟩⟩
  | some name => simpa using substitute_leaves context net name free

theorem settle_leaves (found : Option Bytes) (question : Lookup) (complaint : List Remark)
    (free : net.engine = none) : ∃ lookups, lookups ≠ [] ∧
      (∀ call ∈ lookups, ∃ asked, call = .lookedUp asked false) ∧
      Leaves net (settle (.returns found) question net complaint).2 lookups := by
  cases found with
  | none => exact ⟨_, by simp, by simp, lookup_leaves net question free⟩
  | some host =>
      have first := lookup_leaves net { question with node := some host } free
      rw [settle]
      generalize net.lookup { question with node := some host } = answered at first ⊢
      rcases answered with ⟨rc, after⟩
      by_cases fine : rc = 0
      · simp only [if_pos fine]
        exact ⟨_, by simp, by simp, first⟩
      · simp only [if_neg fine]
        have told := leaves_say _ _ _ complaint first
        have second := lookup_leaves (after.say complaint) question told.engine
        exact ⟨_, by simp, by simp, leaves_trans _ _ _ _ _ told second⟩

end

theorem getaddrinfo_leaves (context : Context) (net : Network) (question : Lookup)
    (free : net.engine = none) : ∃ visit lookups,
      (visit ≠ [] ↔ context.target ≠ none ∧ net.refusal = none ∧
        ∃ node name, question.node = some node ∧ Utf8.decode? node = some name) ∧
      (∀ call ∈ lookups, ∃ asked, call = .lookedUp asked false) ∧
      let ended := getaddrinfo context question net
      (lookups ≠ [] ↔ ∃ rc, ended.1 = .returns rc) ∧
      (ended.1 = .never → Pending visit ∧ ended.2.calls = net.calls ++ visit ∧
        ended.2.caller = net.caller) ∧
      (ended.1 ≠ .never → Visit visit ∧ Leaves net ended.2 (visit ++ lookups)) := by
  rcases getaddrinfo_settles context question net with
    ⟨unasked, passed⟩ | ⟨node, said, shown, complaint, given, active, settled⟩
  · rw [passed]
    refine ⟨[], _, ?_, by simp, ?_, by simp [settle, Course.ofReturn],
      fun _ => ⟨.none, lookup_leaves net question free⟩⟩
    · rcases unasked with unnamed | inactive
      · simp [unnamed]
      · simp [inactive]
    · simp [settle, Course.ofReturn]
  · obtain ⟨visit, made, never, ends⟩ := search_leaves context (net.say said) node free
    have room : (net.say said).refusal = net.refusal := rfl
    rw [room] at made
    rw [settled]
    generalize search context node (net.say said) = searched at never ends ⊢
    rcases searched with ⟨found | _ | _, after⟩
    · obtain ⟨visits, left⟩ := ends (by simp)
      have told := leaves_say _ _ _ shown left
      obtain ⟨lookups, happened, plain, looked⟩ :=
        settle_leaves (after.say shown) found question complaint told.engine
      have whole := leaves_trans _ _ _ _ _ told looked
      obtain ⟨rc, returned, _⟩ := settle_asks found question (after.say shown) complaint
      refine ⟨visit, lookups, by simpa [given] using made, plain, ?_, ?_, ?_⟩
      · exact ⟨fun _ => ⟨rc, returned⟩, fun _ => happened⟩
      · intro lost
        cases returned.symm.trans lost
      · exact fun _ => ⟨visits, whole.calls, whole.engine, whole.caller⟩
    · obtain ⟨visits, left⟩ := ends (by simp)
      refine ⟨visit, [], by simpa [given] using made, by simp, by simp [settle],
        by simp [settle], ?_⟩
      intro _
      rw [List.append_nil]
      exact ⟨visits, left.calls, left.engine, left.caller⟩
    · exact ⟨visit, [], by simpa [given] using made, by simp, by simp [settle],
        fun _ => never rfl, fun ends => absurd rfl ends⟩

theorem resolution_releases (context : Context) (net : Network) (free : net.engine = none) :
    (∀ name, ∃ visit, (visit ≠ [] ↔ context.target ≠ none ∧ net.refusal = none) ∧
      Asked net (substitute context name net) visit) ∧
    ∀ question, ∃ visit lookups,
      (visit ≠ [] ↔ context.target ≠ none ∧ net.refusal = none ∧
        ∃ node name, question.node = some node ∧ Utf8.decode? node = some name) ∧
      (∀ call ∈ lookups, ∃ asked, call = .lookedUp asked false) ∧
      let ended := getaddrinfo context question net
      (lookups ≠ [] ↔ ∃ rc, ended.1 = .returns rc) ∧
      (ended.1 = .never → Pending visit ∧ ended.2.calls = net.calls ++ visit ∧
        ended.2.caller = net.caller) ∧
      (ended.1 ≠ .never → Visit visit ∧ Leaves net ended.2 (visit ++ lookups)) :=
  ⟨fun name => substitute_leaves context net name free,
    fun question => getaddrinfo_leaves context net question free⟩

-- A proxy that cannot be connected to.
def unreachable : Network := { facing [] with reach := .scripted [⟨-1, .ECONNREFUSED⟩] }

theorem resolution_releases_unreachable :
    ∃ visit lookups, Visit visit ∧ visit ≠ [] ∧ lookups ≠ [] ∧
      Leaves unreachable (getaddrinfo here (naming "b") unreachable).2 (visit ++ lookups) := by
  obtain ⟨_, lookedUp⟩ := resolution_releases here unreachable rfl
  obtain ⟨visit, lookups, made, _, happened, _, ends⟩ := lookedUp (naming "b")
  have visited := made.mpr ⟨by decide, rfl, _, "b", rfl, by decide⟩
  have returns : ∃ rc, (getaddrinfo here (naming "b") unreachable).1 = .returns rc := ⟨_, rfl⟩
  obtain ⟨visits, leaves⟩ := ends (by obtain ⟨rc, returned⟩ := returns; rw [returned]; simp)
  exact ⟨visit, lookups, visits, visited, happened.mpr returns, leaves⟩

end ProxyTunnel.Intercept
