import ProxyTunnel.Launch.Spec
import ProxyTunnel.Proofs.Launch.Handover

/-!
What an inherited environment does to the settings of a child. The launcher replaces its own
variables by their exact names; a setting can also be named in another case, and with steps into it,
and on an index reading may panic.
-/

set_option autoImplicit false

namespace ProxyTunnel

namespace Startup

open Settings

-- The proxy that a process finds in its environment, if it gets as far as a context.
def target (c : Configuration) (name : Bytes) (env : Environment) : Option Target :=
  (runBy c name env).bind (·.context.target)

variable (c : Configuration) (name : Bytes) (env : Environment)

theorem target_found (settings : Settings) (read : ofEnvironmentBy c env = .ok settings) :
    target c name env = settings.proxy.bind Target.parse? := by
  obtain ⟨startup, ran, context, _⟩ := run_read c name env settings read
  rw [target, ran, Option.bind_some, context]
  rfl

-- A process that finds a proxy has read every setting.
theorem found_told (documented : c.Documented) (distinct : env.Distinct) (found : Target)
    (finds : target c name env = some found) : ¬ Breaks c env ∧
      (∀ key ∈ keys, ∃ text, told (own env).texts key = some text) ∧
      ∀ text, told (own env).texts "proxy" = some text → text.bind Target.parse? = some found := by
  rcases environment_cases c env with broken | ⟨settings, read⟩ | ⟨problem, unread⟩
  · rw [target, run_broken c name env broken] at finds
    cases finds
  · obtain ⟨whole, proxy, debug, timeout, filter, first, second, third, fourth, rfl⟩ :=
      (settings_iff c env documented settings (distinct_own env distinct)).mp read
    refine ⟨whole, ?_, fun text told => ?_⟩
    · simp only [keys, List.forall_mem_cons]
      exact ⟨⟨_, first⟩, ⟨_, second⟩, ⟨_, third⟩, ⟨_, fourth⟩, by simp⟩
    · cases first.symm.trans told
      exact (target_found c name env _ read).symm.trans finds
  · obtain ⟨startup, ran, inactive, _⟩ := run_unread c name env problem unread
    rw [target, ran, Option.bind_some, inactive] at finds
    cases finds

end Startup

namespace Injection

open Environment Layers

-- A setting named as the launcher names it: without steps, and the proxy as the same one.
structure Suits (i : Injection) (key : String) (naming : Naming) : Prop where
  whole : naming.steps = []
  agrees : key = "proxy" → Target.parse? naming.text = Target.parse? i.proxy

-- A variable in the way of the proxy, and not replaced by the launcher's own.
def Disturbs (i : Injection) (entry : Bytes × Bytes) : Prop :=
  entry.1 ≠ Utf8.encode Settings.proxyVariable ∧ ∃ key ∈ Settings.keys, ∃ steps text,
    Settings.Leads entry key steps text ∧ ¬ i.Suits key ⟨steps, text⟩

theorem disturbs_iff (i : Injection) (entry : Bytes × Bytes) : i.Disturbs entry ↔
    entry.1 ≠ Utf8.encode Settings.proxyVariable ∧ ∃ key ∈ Settings.keys,
      ∃ naming, Settings.naming? key entry = some naming ∧ ¬ i.Suits key naming := by
  refine and_congr_right' (exists_congr fun key => and_congr_right fun member => ?_)
  have leads (naming : Naming) :=
    Settings.naming_leads key entry naming (Settings.keys_plain key member)
  constructor
  · rintro ⟨steps, text, led, unsuited⟩
    exact ⟨⟨steps, text⟩, (leads _).mpr led, unsuited⟩
  · rintro ⟨naming, given, unsuited⟩
    exact ⟨naming.steps, naming.text, (leads naming).mp given, unsuited⟩

-- The environment of a program that is launched from another one.
def launched (i : Injection) (library : Bytes) (existing : Option String) (program : String)
    (arguments : List String) (env : Environment) : Environment :=
  (LaunchSpec.mk program arguments (i.childVariables library existing)).childEnvironment env

variable (i : Injection) (library : Bytes) (existing : Option String)

theorem child_distinct : (spelled (i.childVariables library existing)).Distinct := by
  have apart : ([linkerVariable, Settings.proxyVariable, Settings.debugVariable,
      Settings.timeoutVariable].map Utf8.encode).Nodup := by decide
  refine List.Nodup.sublist ?_ apart
  rcases i with ⟨url, _ | _, _ | budget⟩ <;> simp [spelled, childVariables]

theorem handed_settings (name text : String) (member : (name, text) ∈ i.handed) : ∃ setting,
    (settingOf? name = some setting ∧ Path.readLeniently setting = ⟨setting, []⟩ ∧
      Text.lower setting = setting) ∧
      (setting = "proxy" → name = Settings.proxyVariable ∧ text = i.proxy) := by
  rw [handed, List.mem_cons, List.mem_append] at member
  rcases member with proxy | debug | timeout
  · cases proxy
    exact ⟨"proxy", by decide, fun _ => ⟨rfl, rfl⟩⟩
  · split at debug
    · cases List.mem_singleton.mp debug
      exact ⟨"debug", by decide, fun same => absurd same (by decide)⟩
    · simp at debug
  · simp only [Option.mem_toList, Option.map_eq_some_iff] at timeout
    obtain ⟨_, _, same⟩ := timeout
    cases same
    exact ⟨"timeout_ms", by decide, fun same => absurd same (by decide)⟩

-- What is set under the name of a variable of the launcher.
theorem child_sets (name text : String) (value : Bytes) (other told : String)
    (member : (name, text) ∈ i.childVariables library existing)
    (sets : Settings.Sets (Utf8.encode name, value) other told) :
    other = name ∧ value = Utf8.encode told ∧ (name, text) ∈ i.handed := by
  obtain ⟨same, held⟩ := Prod.mk.inj sets.spelled
  obtain rfl := Utf8.encode_inj name other same
  refine ⟨rfl, held, ?_⟩
  rw [← child_own i library existing]
  exact List.mem_filter.mpr ⟨member, List.isPrefixOf_iff_prefix.mpr sets.headed⟩

-- A setting is named there without steps, and only the launcher's own variable names the proxy.
theorem child_named (name text : String) (value : Bytes) (key : String) (naming : Naming)
    (member : (name, text) ∈ i.childVariables library existing)
    (given : Settings.naming? key (Utf8.encode name, value) = some naming) :
    naming.steps = [] ∧ value = Utf8.encode naming.text ∧
      (key = "proxy" → name = Settings.proxyVariable ∧ text = i.proxy) := by
  obtain ⟨⟨other, told⟩, found, named⟩ := Option.bind_eq_some_iff.mp given
  obtain ⟨rfl, held, handed⟩ := child_sets i library existing name text value other told member
    ((Settings.setting_iff _ other told).mp found)
  obtain ⟨setting, plain, own⟩ := handed_settings i other text handed
  rw [naming_plain other setting key told plain, Option.ite_none_right_eq_some] at named
  obtain ⟨rfl, same⟩ := named
  cases same
  exact ⟨rfl, held, own⟩

theorem child_suits (entry : Bytes × Bytes)
    (member : entry ∈ spelled (i.childVariables library existing)) (key : String) (naming : Naming)
    (given : Settings.naming? key entry = some naming) : i.Suits key naming := by
  obtain ⟨⟨name, text⟩, inside, rfl⟩ := List.mem_map.mp member
  obtain ⟨whole, held, proxy⟩ := child_named i library existing name text _ key naming inside given
  obtain rfl := Utf8.encode_inj text naming.text held
  exact ⟨whole, fun own => congrArg Target.parse? (proxy own).2⟩

theorem child_unindexed (entry : Bytes × Bytes)
    (member : entry ∈ spelled (i.childVariables library existing)) : ¬ Settings.Indexed entry := by
  rintro ⟨other, told, sets, marked⟩
  obtain ⟨⟨name, text⟩, inside, rfl⟩ := List.mem_map.mp member
  obtain ⟨rfl, _, handed⟩ := child_sets i library existing name text _ other told inside sets
  exact handed_unmarked i _ handed marked

theorem disturbing_kept (entry : Bytes × Bytes) (disturbs : i.Disturbs entry) :
    entry.1 ∉ (spelled (i.childVariables library existing)).map Prod.fst := by
  intro replaced
  obtain ⟨apart, key, _, naming, given, unsuited⟩ := (disturbs_iff i entry).mp disturbs
  obtain ⟨_, member, same⟩ := List.mem_map.mp replaced
  obtain ⟨⟨name, text⟩, inside, rfl⟩ := List.mem_map.mp member
  rcases entry with ⟨_, value⟩
  cases same
  obtain ⟨whole, _, proxy⟩ := child_named i library existing name text value key naming inside given
  exact unsuited ⟨whole, fun own => absurd (congrArg Utf8.encode (proxy own).1) apart⟩

theorem child_proxy : ∃ entry ∈ spelled (i.childVariables library existing),
    Settings.naming? "proxy" entry = some ⟨[], i.proxy⟩ := by
  refine ⟨(Utf8.encode Settings.proxyVariable, Utf8.encode i.proxy),
    by simp [spelled, childVariables], ?_⟩
  have sets := (Settings.setting_iff _ Settings.proxyVariable i.proxy).mpr ⟨rfl, by decide⟩
  rw [Settings.naming?, sets, Option.bind_some,
    naming_plain Settings.proxyVariable "proxy" "proxy" i.proxy (by decide), if_pos rfl]

variable (program : String) (arguments : List String) (env order : Environment)

theorem launched_order (distinct : env.Distinct)
    (same : order.Perm (i.launched library existing program arguments env)) :
    order.Perm (spelled (i.childVariables library existing) ++
      env.besides (spelled (i.childVariables library existing))) :=
  same.trans (set_all_order env _ distinct (child_distinct i library existing))

theorem launched_distinct (distinct : env.Distinct)
    (same : order.Perm (i.launched library existing program arguments env)) : order.Distinct := by
  have placed := launched_order i library existing program arguments env order distinct same
  refine (placed.map Prod.fst).nodup_iff.mpr ?_
  rw [List.map_append, List.nodup_append]
  refine ⟨child_distinct i library existing,
    List.Nodup.sublist (List.filter_sublist.map _) distinct, ?_⟩
  rintro name child _ beside rfl
  obtain ⟨entry, member, rfl⟩ := List.mem_map.mp beside
  simp only [besides, List.mem_filter, decide_eq_true_eq] at member
  exact member.2 child

theorem undisturbed_suits (distinct : env.Distinct)
    (same : order.Perm (i.launched library existing program arguments env))
    (undisturbed : ∀ entry ∈ env, ¬ i.Disturbs entry) (key : String)
    (member : key ∈ Settings.keys) :
    ∀ naming ∈ namings key (Settings.own order).texts, i.Suits key naming := by
  intro naming named
  rw [Settings.own_namings] at named
  obtain ⟨entry, inside, given⟩ := List.mem_filterMap.mp named
  have placed := launched_order i library existing program arguments env order distinct same
  rcases List.mem_append.mp (placed.mem_iff.mp inside) with child | beside
  · exact child_suits i library existing entry child key naming given
  · simp only [besides, List.mem_filter, decide_eq_true_eq] at beside
    obtain ⟨inherited, other⟩ := beside
    have apart : entry.1 ≠ Utf8.encode Settings.proxyVariable := by
      intro equal
      exact other (equal ▸ by simp [spelled, childVariables])
    by_contra unsuited
    exact undisturbed entry inherited
      ((disturbs_iff i entry).mpr ⟨apart, key, member, naming, given, unsuited⟩)

-- Where nothing disturbs, only a panic takes the proxy away.
theorem undisturbed_target (c : Configuration) (documented : c.Documented) (distinct : env.Distinct)
    (same : order.Perm (i.launched library existing program arguments env))
    (undisturbed : ∀ entry ∈ env, ¬ i.Disturbs entry) (whole : ¬ Settings.Breaks c order)
    (name : Bytes) : Startup.target c name order = Target.parse? i.proxy := by
  have suits := undisturbed_suits i library existing program arguments env order distinct same
    undisturbed
  have told (key : String) (member : key ∈ Settings.keys) :=
    Settings.told_plain (Settings.own order).texts key fun naming named =>
      (suits key member naming named).whole
  have ordered := Settings.distinct_own order
    (launched_distinct i library existing program arguments env order distinct same)
  have read := (Settings.settings_iff c order documented _ ordered).mpr ⟨whole, _, _, _, _,
    told "proxy" (by decide), told "debug" (by decide), told "timeout_ms" (by decide),
    told "log" (by decide), rfl⟩
  refine (Startup.target_found c name order _ read).trans ?_
  obtain ⟨entry, child, given⟩ := child_proxy i library existing
  have inside : entry ∈ order :=
    (launched_order i library existing program arguments env order distinct same).mem_iff.mpr
      (List.mem_append_left _ child)
  have named : (⟨[], i.proxy⟩ : Naming) ∈ namings "proxy" (Settings.own order).texts := by
    rw [Settings.own_namings]
    exact List.mem_filterMap.mpr ⟨entry, inside, given⟩
  rw [Settings.ofTexts]
  cases last : (namings "proxy" (Settings.own order).texts).getLast? with
  | none =>
      rw [List.getLast?_eq_none_iff.mp last] at named
      cases named
  | some naming =>
      exact (suits "proxy" (by decide) naming (List.mem_of_getLast? last)).agrees rfl

-- Where the last variable disturbs, the proxy is lost.
theorem disturbed_target (c : Configuration) (documented : c.Documented) (before : Environment)
    (entry : Bytes × Bytes) (distinct : Distinct (before ++ [entry])) (active : i.isActive = true)
    (disturbs : i.Disturbs entry) (name : Bytes) :
    Startup.target c name (before ++ [entry]) ≠ Target.parse? i.proxy := by
  obtain ⟨_, key, member, naming, given, unsuited⟩ := (disturbs_iff i entry).mp disturbs
  have last := Settings.last_naming before entry key naming given
  obtain ⟨target, parsed⟩ := Option.isSome_iff_exists.mp active
  rw [parsed]
  intro found
  obtain ⟨_, told, agrees⟩ := Startup.found_told c name _ documented distinct target found
  have whole : naming.steps = [] := by
    by_contra stepped
    have refused := Settings.told_stepped _ key naming last stepped
    obtain ⟨text, read⟩ := told key member
    cases refused.symm.trans read
  refine unsuited ⟨whole, ?_⟩
  rintro rfl
  rw [parsed]
  refine agrees (some naming.text) ((Settings.told_iff _ _ _).mpr ?_)
  rw [last, Option.map_some, ← whole]

theorem disturbed_order (c : Configuration) (documented : c.Documented) (distinct : env.Distinct)
    (active : i.isActive = true) (entry : Bytes × Bytes) (member : entry ∈ env)
    (disturbs : i.Disturbs entry) (name : Bytes) :
    ∃ order, order.Perm (i.launched library existing program arguments env) ∧
      Startup.target c name order ≠ Target.parse? i.proxy := by
  have placed := launched_order i library existing program arguments env _ distinct (.refl _)
  have kept : entry ∈ i.launched library existing program arguments env := by
    refine placed.mem_iff.mpr (List.mem_append_right _ (List.mem_filter.mpr ⟨member, ?_⟩))
    simpa using disturbing_kept i library existing entry disturbs
  obtain ⟨before, same⟩ := comes_last _ entry kept
  refine ⟨_, same, disturbed_target i c documented before entry ?_ active disturbs name⟩
  exact launched_distinct i library existing program arguments env _ distinct same

theorem unindexed_order (c : Configuration) (documented : c.Documented) (distinct : env.Distinct)
    (same : order.Perm (i.launched library existing program arguments env))
    (unindexed : ∀ entry ∈ env, ¬ Settings.Indexed entry) : ¬ Settings.Breaks c order := by
  have ordered := Settings.distinct_own order
    (launched_distinct i library existing program arguments env order distinct same)
  refine Settings.unindexed_whole c order documented ordered fun entry inside => ?_
  have placed := launched_order i library existing program arguments env order distinct same
  rcases List.mem_append.mp (placed.mem_iff.mp inside) with child | beside
  · exact child_unindexed i library existing entry child
  · exact unindexed entry (List.mem_filter.mp beside).1

theorem inheritance_decides (c : Configuration) (documented : c.Documented)
    (distinct : env.Distinct) (name : Bytes) :
    ((∀ entry ∈ env, ¬ i.Disturbs entry) →
      ∀ order, order.Perm (i.launched library existing program arguments env) →
        ¬ Settings.Breaks c order → Startup.target c name order = Target.parse? i.proxy) ∧
    ((∀ entry ∈ env, ¬ Settings.Indexed entry) →
      ∀ order, order.Perm (i.launched library existing program arguments env) →
        ¬ Settings.Breaks c order) ∧
    (i.isActive = true →
      ((∀ order, order.Perm (i.launched library existing program arguments env) →
          Startup.target c name order = Target.parse? i.proxy) ↔
        (∀ entry ∈ env, ¬ i.Disturbs entry) ∧
          ∀ order, order.Perm (i.launched library existing program arguments env) →
            ¬ Settings.Breaks c order)) := by
  have undisturbed (none : ∀ entry ∈ env, ¬ i.Disturbs entry) (order : Environment)
      (same : order.Perm (i.launched library existing program arguments env))
      (whole : ¬ Settings.Breaks c order) :=
    undisturbed_target i library existing program arguments env order c documented distinct same
      none whole name
  refine ⟨undisturbed, fun unindexed order same => unindexed_order i library existing program
    arguments env order c documented distinct same unindexed, fun active => ⟨fun reached => ?_, ?_⟩⟩
  · refine ⟨fun entry member disturbs => ?_, fun order same broken => ?_⟩
    · obtain ⟨order, same, lost⟩ := disturbed_order i library existing program arguments env c
        documented distinct active entry member disturbs name
      exact lost (reached order same)
    · obtain ⟨target, parsed⟩ := Option.isSome_iff_exists.mp active
      have found := (reached order same).trans parsed
      rw [Startup.target, Startup.run_broken c name order broken] at found
      cases found
  · rintro ⟨none, whole⟩ order same
    exact undisturbed none order same (whole order same)

-- A launcher for a usable proxy, and an environment that takes the proxy away.
def usable : Injection := ⟨"http://localhost:8080", false, none⟩

def stepping : Environment := spelled [("SSHTUNNEL_LOG.X", "1")]

theorem inheritance_decides_stepping : stepping.Distinct ∧ usable.isActive = true ∧
    ¬ ∀ order, order.Perm (usable.launched (Utf8.encode "/lib/x.so") none "true" [] stepping) →
      Startup.target .layered [] order = Target.parse? usable.proxy := by
  have distinct : stepping.Distinct := by unfold Distinct; decide
  have active : usable.isActive = true := by decide +kernel
  have named : Settings.naming? "log" (Utf8.encode "SSHTUNNEL_LOG.X", Utf8.encode "1") =
      some ⟨[.name "x"], "1"⟩ := by decide +kernel
  obtain ⟨_, _, decides⟩ := inheritance_decides usable (Utf8.encode "/lib/x.so") none "true" []
    stepping .layered Configuration.layered_documented distinct []
  have member : (Utf8.encode "SSHTUNNEL_LOG.X", Utf8.encode "1") ∈ stepping :=
    List.mem_singleton_self _
  have apart : Utf8.encode "SSHTUNNEL_LOG.X" ≠ Utf8.encode Settings.proxyVariable := by
    decide +kernel
  refine ⟨distinct, active, fun reached => ?_⟩
  refine ((decides active).mp reached).1 _ member ((disturbs_iff _ _).mpr
    ⟨apart, "log", by decide, _, named, ?_⟩)
  rintro ⟨whole, _⟩
  cases whole

-- An environment with an index that no array has.
def indexing : Environment := spelled [("SSHTUNNEL_X[9223372036854775807]", "1")]

theorem usable_proxy_lost : usable.isActive = true ∧
    (Startup.run [] (usable.launched (Utf8.encode "/lib/x.so") none "true" [] stepping)).map
      (·.context) = some Context.inactive ∧
    (Startup.run [] (usable.launched (Utf8.encode "/lib/x.so") none "true" []
      indexing)).isNone := by
  decide +kernel

end Injection

end ProxyTunnel
