import ProxyTunnel.Proofs.Settings.Independence

/-!
What variables do to settings that they are not meant for. No value does anything to another
setting. A name that goes on with steps after the name of a setting makes all of them unreadable, as
does a name on which the library panics.
-/

set_option autoImplicit false

namespace ProxyTunnel.Settings

open Environment Layers

-- A variable whose name goes on with steps into a setting.
def Stepping (entry : Bytes × Bytes) : Prop :=
  ∃ key ∈ keys, ∃ steps text, Leads entry key steps text ∧ steps ≠ []

theorem stepping_iff (entry : Bytes × Bytes) : Stepping entry ↔
    ∃ key ∈ keys, ∃ naming, naming? key entry = some naming ∧ naming.steps ≠ [] := by
  constructor
  · rintro ⟨key, member, steps, text, leads, stepped⟩
    exact ⟨key, member, ⟨steps, text⟩,
      (naming_leads key entry _ (keys_plain key member)).mpr leads, stepped⟩
  · rintro ⟨key, member, naming, given, stepped⟩
    exact ⟨key, member, naming.steps, naming.text,
      (naming_leads key entry naming (keys_plain key member)).mp given, stepped⟩

instance (entry : Bytes × Bytes) : Decidable (Stepping entry) :=
  decidable_of_iff (∃ key ∈ keys, (naming? key entry).any (·.steps ≠ []) = true) <| by
    simp only [stepping_iff, Option.any_eq_true, decide_eq_true_eq]

theorem says_iff (env : Environment) (key text : String) (plain : Path.Plain key) :
    Says env key text ↔ ∃ entry ∈ env, naming? key entry = some ⟨[], text⟩ := by
  simp only [Says, naming_leads key _ _ plain, Leads, names_whole]

section

variable (env : Environment) (unstepped : ∀ entry ∈ env, ¬ Stepping entry)

include unstepped

theorem told_unstepped (key : String) (member : key ∈ keys) :
    told (own env).texts key = some ((env.filterMap (naming? key)).getLast?.map (·.text)) := by
  rw [← own_namings]
  refine told_plain _ key fun naming named => ?_
  rw [own_namings] at named
  obtain ⟨entry, inside, given⟩ := List.mem_filterMap.mp named
  by_contra stepped
  exact unstepped entry inside ((stepping_iff entry).mpr ⟨key, member, naming, given, stepped⟩)

theorem proxy_said (entry : Bytes × Bytes) (member : entry ∈ env) (naming : Naming)
    (given : naming? "proxy" entry = some naming) : Says env "proxy" naming.text := by
  rcases naming with ⟨steps, text⟩
  have whole : steps = [] := by
    by_contra stepped
    exact unstepped entry member ((stepping_iff entry).mpr ⟨"proxy", by decide, _, given, stepped⟩)
  subst whole
  exact (says_iff env "proxy" text (keys_plain "proxy" (by decide))).mpr ⟨entry, member, given⟩

end

-- What is said of the proxy, by any variable.
def Said (env : Environment) (proxy : Option String) : Prop :=
  match proxy with
  | .none => ∀ text, ¬ Says env "proxy" text
  | some text => Says env "proxy" text

-- Variables that say nothing of the proxy may come and go.
theorem said_among (env others env' : Environment) (silent : ∀ entry ∈ others, ∀ text,
    ¬ Says [entry] "proxy" text) (order : env'.Perm (env ++ others)) (proxy : Option String) :
    Said env' proxy ↔ Said env proxy := by
  have same (text : String) : Says env' "proxy" text ↔ Says env "proxy" text := by
    refine exists_congr fun entry => and_congr_left fun said => ?_
    rw [order.mem_iff, List.mem_append, or_iff_left]
    exact fun other => silent entry other text ⟨entry, List.mem_singleton_self _, said⟩
  cases proxy with
  | none => exact forall_congr' fun text => not_congr (same text)
  | some text => exact same text

-- A variable that is of no concern to the proxy.
structure Harmless (entry : Bytes × Bytes) : Prop where
  unstepped : ¬ Stepping entry
  silent : ∀ text, ¬ Says [entry] "proxy" text

section

variable (c : Configuration)

-- Settings can be read of variables, in whatever order these come.
def Readable (env : Environment) : Prop :=
  ∀ order, order.Perm env.latest → ∃ settings, ofEnvironmentBy c order = .ok settings

-- In no order does reading the variables end in a panic.
def Unbroken (env : Environment) : Prop := ∀ order, order.Perm env.latest → ¬ Breaks c order

-- An order of which no settings are read. A process has an inactive context, or none at all.
structure Spoiled (order : Environment) : Prop where
  unread : Breaks c order ∨ ∃ problem, ofEnvironmentBy c order = .error (.settings problem)
  inactive : ∀ program startup, Startup.runBy c program order = some startup →
    startup.context = .inactive

-- A proxy that is found in one of the orders in which variables may be read.
def Finds (env : Environment) (proxy : Option String) : Prop :=
  ∃ order, order.Perm env.latest ∧
    (∃ settings, ofEnvironmentBy c order = .ok settings ∧ settings.proxy = proxy) ∧
    ∀ program, ∃ startup, Startup.runBy c program order = some startup ∧
      startup.context.target = proxy.bind Target.parse?

theorem latest_order (env order : Environment) (same : order.Perm env.latest) :
    (own order).Distinct :=
  distinct_own order ((same.map Prod.fst).nodup_iff.mpr (latest_distinct env))

theorem spoiled_iff (order : Environment) :
    Spoiled c order ↔ ∀ settings, ofEnvironmentBy c order ≠ .ok settings := by
  constructor
  · rintro ⟨broken | ⟨problem, unread⟩, _⟩ settings read
    · cases read.symm.trans broken
    · cases read.symm.trans unread
  · intro none
    rcases environment_cases c order with broken | ⟨settings, read⟩ | ⟨problem, unread⟩
    · refine ⟨.inl broken, fun program startup run => ?_⟩
      cases run.symm.trans (Startup.run_broken c program order broken)
    · exact absurd read (none settings)
    · refine ⟨.inr ⟨problem, unread⟩, fun program startup run => ?_⟩
      obtain ⟨made, ran, inactive, _⟩ := Startup.run_unread c program order problem unread
      cases run.symm.trans ran
      exact inactive

theorem finds_read (env order : Environment) (settings : Settings) (same : order.Perm env.latest)
    (read : ofEnvironmentBy c order = .ok settings) : Finds c env settings.proxy := by
  refine ⟨order, same, ⟨settings, read, rfl⟩, fun program => ?_⟩
  obtain ⟨startup, ran, context, _⟩ := Startup.run_read c program order settings read
  exact ⟨startup, ran, context ▸ rfl⟩

variable (documented : c.Documented) (env : Environment)

include documented

-- A variable with steps that comes last spoils the settings.
theorem stepping_spoils (entry : Bytes × Bytes) (member : entry ∈ env.latest)
    (stepping : Stepping entry) : ∃ order, order.Perm env.latest ∧ Spoiled c order := by
  obtain ⟨key, named, naming, given, stepped⟩ := (stepping_iff entry).mp stepping
  obtain ⟨before, same⟩ := comes_last env.latest entry member
  have refused :=
    told_stepped _ key naming (last_naming before entry key naming given) stepped
  refine ⟨_, same, (spoiled_iff c _).mpr fun settings read => ?_⟩
  have whole : ¬ Breaks c (before ++ [entry]) := fun broken => by cases read.symm.trans broken
  obtain ⟨problem, unread⟩ :=
    unread_problem c _ documented (latest_order env _ same) whole key named refused
  cases read.symm.trans unread

theorem unstepped_read (order : Environment) (same : order.Perm env.latest)
    (unstepped : ∀ entry ∈ env.latest, ¬ Stepping entry) (whole : ¬ Breaks c order) :
    ∃ settings, ofEnvironmentBy c order = .ok settings ∧
      settings.proxy = (order.filterMap (naming? "proxy")).getLast?.map (·.text) := by
  have told (key : String) (member : key ∈ keys) := told_unstepped order
    (fun entry inside => unstepped entry (same.mem_iff.mp inside)) key member
  exact ⟨_, (settings_iff c order documented _ (latest_order env order same)).mpr
    ⟨whole, _, _, _, _, told "proxy" (by decide), told "debug" (by decide),
      told "timeout_ms" (by decide), told "log" (by decide), rfl⟩, rfl⟩

theorem readable_iff : Readable c env ↔
    Unbroken c env ∧ ∀ entry ∈ env.latest, ¬ Stepping entry := by
  constructor
  · intro readable
    refine ⟨fun order same broken => ?_, fun entry member stepping => ?_⟩
    · obtain ⟨settings, read⟩ := readable order same
      cases read.symm.trans broken
    · obtain ⟨order, same, spoiled⟩ := stepping_spoils c documented env entry member stepping
      obtain ⟨settings, read⟩ := readable order same
      exact (spoiled_iff c order).mp spoiled settings read
  · rintro ⟨unbroken, unstepped⟩ order same
    obtain ⟨settings, read, _⟩ :=
      unstepped_read c documented env order same unstepped (unbroken order same)
    exact ⟨settings, read⟩

theorem finds_iff (readable : Readable c env) (proxy : Option String) :
    Finds c env proxy ↔ Said env.latest proxy := by
  obtain ⟨unbroken, unstepped⟩ := (readable_iff c documented env).mp readable
  have reads (order : Environment) (same : order.Perm env.latest) :=
    unstepped_read c documented env order same unstepped (unbroken order same)
  have said_proxy (text : String) :=
    says_iff env.latest "proxy" text (keys_plain "proxy" (by decide))
  constructor
  · rintro ⟨order, same, ⟨settings, read, rfl⟩, _⟩
    obtain ⟨other, again, last⟩ := reads order same
    cases again.symm.trans read
    rw [last]
    cases found : (order.filterMap (naming? "proxy")).getLast? with
    | none =>
        intro text said
        obtain ⟨entry, member, given⟩ := (said_proxy text).mp said
        have named : (⟨[], text⟩ : Naming) ∈ order.filterMap (naming? "proxy") :=
          List.mem_filterMap.mpr ⟨entry, same.mem_iff.mpr member, given⟩
        rw [List.getLast?_eq_none_iff.mp found] at named
        cases named
    | some naming =>
        obtain ⟨entry, member, given⟩ := List.mem_filterMap.mp (List.mem_of_getLast? found)
        exact proxy_said env.latest unstepped entry (same.mem_iff.mp member) naming given
  · intro said
    cases proxy with
    | none =>
        obtain ⟨settings, read, last⟩ := reads env.latest (.refl _)
        have silent : settings.proxy = .none := by
          rw [last, Option.map_eq_none_iff, List.getLast?_eq_none_iff, List.filterMap_eq_nil_iff]
          intro entry member
          rw [Option.eq_none_iff_forall_ne_some]
          intro naming given
          exact said _ (proxy_said env.latest unstepped entry member naming given)
        exact silent ▸ finds_read c env env.latest settings (.refl _) read
    | some text =>
        obtain ⟨entry, member, given⟩ := (said_proxy text).mp said
        obtain ⟨before, same⟩ := comes_last env.latest entry member
        obtain ⟨settings, read, last⟩ := reads _ same
        have found : settings.proxy = some text := by
          rw [last, ← own_namings, last_naming before entry "proxy" _ given]
          rfl
        exact found ▸ finds_read c env _ settings same read

theorem names_alone_spoil :
    ofEnvironmentBy c env = ofEnvironmentBy c env.latest ∧
    ((∀ entry ∈ env.latest, ¬ Indexed entry) → Unbroken c env) ∧
    (Readable c env ↔ Unbroken c env ∧ ∀ entry ∈ env.latest, ¬ Stepping entry) ∧
    (∀ entry ∈ env.latest, Stepping entry → ∃ order, order.Perm env.latest ∧ Spoiled c order) ∧
    (Readable c env → (∀ proxy, Finds c env proxy ↔ Said env.latest proxy) ∧
      ∀ others env', (∀ entry ∈ others, Harmless entry) →
        env'.latest.Perm (env.latest ++ others) → Unbroken c env' →
        Readable c env' ∧ ∀ proxy, Finds c env' proxy ↔ Finds c env proxy) := by
  refine ⟨environment_latest c env, fun unindexed order same => ?_, readable_iff c documented env,
    stepping_spoils c documented env, fun readable => ?_⟩
  · exact unindexed_whole c order documented (latest_order env order same) fun entry member =>
      unindexed entry (same.mem_iff.mp member)
  · obtain ⟨_, unstepped⟩ := (readable_iff c documented env).mp readable
    refine ⟨finds_iff c documented env readable, fun others env' harmless order unbroken => ?_⟩
    have unstepped' : ∀ entry ∈ env'.latest, ¬ Stepping entry := by
      intro entry member
      rcases List.mem_append.mp (order.mem_iff.mp member) with inside | other
      · exact unstepped entry inside
      · exact (harmless entry other).unstepped
    have readable' := (readable_iff c documented env').mpr ⟨unbroken, unstepped'⟩
    refine ⟨readable', fun proxy => ?_⟩
    rw [finds_iff c documented env' readable', finds_iff c documented env readable]
    exact said_among _ _ _ (fun entry other => (harmless entry other).silent) order proxy

end

-- A proxy among bad values, to which a further one is added.
def careless : Environment := spelled
  [("SSHTUNNEL_PROXY", "http://localhost:8080"), ("SSHTUNNEL_TIMEOUT_MS", "soon"),
    ("SSHTUNNEL_LOG", "[")]

def careless' : Environment := spelled [("SSHTUNNEL_DEBUG", "yes")] ++ careless

theorem names_alone_spoil_careless :
    Readable .layered careless ∧ Readable .layered careless' ∧
      Finds .layered careless' (some "http://localhost:8080") := by
  obtain ⟨_, unbroken, readable, _, free⟩ :=
    names_alone_spoil .layered Configuration.layered_documented careless
  have plain : Readable .layered careless :=
    readable.mpr ⟨unbroken (by decide +kernel), by decide +kernel⟩
  obtain ⟨finds, among⟩ := free plain
  have harmless : ∀ entry ∈ spelled [("SSHTUNNEL_DEBUG", "yes")], Harmless entry := by
    intro entry member
    rw [List.mem_singleton.mp member]
    refine ⟨by decide +kernel, fun text said => ?_⟩
    obtain ⟨_, inside, given⟩ := (says_iff _ "proxy" text (keys_plain "proxy" (by decide))).mp said
    rw [List.mem_singleton.mp inside] at given
    have unnamed : naming? "proxy" (Utf8.encode "SSHTUNNEL_DEBUG", Utf8.encode "yes") = .none := by
      decide +kernel
    cases unnamed.symm.trans given
  obtain ⟨_, unbroken', _⟩ :=
    names_alone_spoil .layered Configuration.layered_documented careless'
  obtain ⟨plain', same⟩ :=
    among _ careless' harmless (by decide +kernel) (unbroken' (by decide +kernel))
  refine ⟨plain, plain', (same _).mpr ((finds _).mpr ?_)⟩
  refine (says_iff _ "proxy" _ (keys_plain "proxy" (by decide))).mpr
    ⟨(Utf8.encode "SSHTUNNEL_PROXY", Utf8.encode "http://localhost:8080"), ?_, ?_⟩
  · decide +kernel
  · decide +kernel

-- A step into the debug switch takes the proxy away, and so do another spelling of its name and an
-- index that no array has.
theorem stepping_loses_proxy :
    (ofEnvironment (spelled [("SSHTUNNEL_PROXY", "http://localhost:8080")])).toOption.bind
      (·.proxy) = some "http://localhost:8080" ∧
    ofEnvironment (spelled [("SSHTUNNEL_PROXY", "http://localhost:8080"),
      ("SSHTUNNEL_DEBUG.LEVEL", "1")]) = .error (.settings (.notText "map" "debug")) ∧
    (ofEnvironment (spelled [("SSHTUNNEL_PROXY", "http://localhost:8080"),
      ("SSHTUNNEL_proxy", "no")])).toOption.bind (·.proxy) = some "no" ∧
    ofEnvironment (spelled [("SSHTUNNEL_PROXY", "http://localhost:8080"),
      ("SSHTUNNEL_X[9223372036854775807]", "1")]) = .error .panic := by
  decide +kernel

end ProxyTunnel.Settings
