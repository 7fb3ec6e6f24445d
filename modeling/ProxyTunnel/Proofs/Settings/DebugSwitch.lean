import ProxyTunnel.Proofs.Settings.Variables

/-!
The switch for diagnostics is read in two ways: as a setting among the others and, where these
cannot be read, as the variable of one exact name. They agree unless the name comes in another case
as well. Where reading panics there are no diagnostics.
-/

set_option autoImplicit false

namespace ProxyTunnel.Settings

open Environment Layers

-- A variable that is taken for the switch under another name than the switch has, and that says
-- otherwise.
structure Dissents (env : Environment) (entry : Bytes × Bytes) : Prop where
  other : entry.1 ≠ Utf8.encode debugVariable
  taken : ∃ name text, Sets entry name text ∧ Text.lower name = Layers.head ++ "debug" ∧
    ¬ (text = "1" ↔ debugRequested env = true)

theorem debug_naming (entry : Bytes × Bytes) (text : String) :
    naming? "debug" entry = some ⟨[], text⟩ ↔
      ∃ name, Sets entry name text ∧ Text.lower name = Layers.head ++ "debug" := by
  rw [naming_leads "debug" entry _ (keys_plain "debug" (by decide))]
  exact exists_congr fun name => and_congr_right' (names_whole name "debug")

theorem dissents_iff (env : Environment) (entry : Bytes × Bytes) : Dissents env entry ↔
    entry.1 ≠ Utf8.encode debugVariable ∧ ∃ naming ∈ naming? "debug" entry,
      naming.steps = [] ∧ ¬ (naming.text = "1" ↔ debugRequested env = true) := by
  constructor
  · rintro ⟨other, name, text, sets, same, against⟩
    exact ⟨other, ⟨[], text⟩, (debug_naming entry text).mpr ⟨name, sets, same⟩, rfl, against⟩
  · rintro ⟨other, ⟨steps, text⟩, given, rfl, against⟩
    obtain ⟨name, sets, same⟩ := (debug_naming entry text).mp given
    exact ⟨other, name, text, sets, same, against⟩

instance (env : Environment) (entry : Bytes × Bytes) : Decidable (Dissents env entry) :=
  decidable_of_iff _ (dissents_iff env entry).symm

theorem requested_iff (env : Environment) (distinct : env.Distinct) :
    debugRequested env = true ↔ (Utf8.encode debugVariable, Utf8.encode "1") ∈ env := by
  rw [← lookup_iff env _ _ distinct, debugRequested, decide_eq_true_iff, getText?, get?,
    Option.bind_eq_some_iff]
  constructor
  · rintro ⟨bytes, found, decoded⟩
    rw [Utf8.decode_spells bytes "1" decoded]
    exact found
  · intro found
    exact ⟨_, found, Utf8.decode_encode "1"⟩

theorem requested_order (env order : Environment) (distinct : env.Distinct)
    (same : order.Perm env) : debugRequested order = debugRequested env := by
  have distinct' : order.Distinct := (same.map Prod.fst).nodup_iff.mpr distinct
  rw [Bool.eq_iff_iff, requested_iff order distinct', requested_iff env distinct]
  exact same.mem_iff

-- The switch itself, as one of the settings.
theorem switch_naming (value : Bytes) (text : String) :
    naming? "debug" (Utf8.encode debugVariable, value) = some ⟨[], text⟩ ↔
      value = Utf8.encode text := by
  rw [debug_naming]
  constructor
  · rintro ⟨name, sets, _⟩
    exact (Prod.mk.inj sets.spelled).2
  · rintro rfl
    exact ⟨debugVariable, ⟨rfl, by decide⟩, by decide⟩

-- What is taken for the switch says the same as the switch.
theorem taken_agrees (env : Environment) (distinct : env.Distinct) (entry : Bytes × Bytes)
    (member : entry ∈ env) (text : String) (given : naming? "debug" entry = some ⟨[], text⟩)
    (agrees : ¬ Dissents env entry) : text = "1" ↔ debugRequested env = true := by
  by_cases own : entry.1 = Utf8.encode debugVariable
  · rcases entry with ⟨_, value⟩
    subst own
    have held := (switch_naming value text).mp given
    rw [requested_iff env distinct, ← lookup_iff env _ _ distinct,
      (lookup_iff env _ value distinct).mpr member, held, Option.some.injEq]
    constructor
    · rintro rfl
      rfl
    · exact Utf8.encode_inj text "1"
  · by_contra differ
    exact agrees ((dissents_iff env entry).mpr ⟨own, _, given, rfl, differ⟩)

-- The switch is on if the last variable that is taken for it says so.
theorem debug_read (c : Configuration) (documented : c.Documented) (env : Environment)
    (distinct : env.Distinct) (settings : Settings)
    (read : ofEnvironmentBy c env = .ok settings) : ∃ text,
      (env.filterMap (naming? "debug")).getLast? = text.map (Naming.mk []) ∧
        settings.debug = decide (text = some "1") := by
  obtain ⟨_, _, debug, _, _, _, told, _, _, rfl⟩ :=
    (settings_iff c env documented settings (distinct_own env distinct)).mp read
  rw [told_iff, own_namings] at told
  exact ⟨debug, told, rfl⟩

theorem agreed_debug (c : Configuration) (documented : c.Documented) (env : Environment)
    (distinct : env.Distinct) (agreed : ∀ entry ∈ env, ¬ Dissents env entry) (settings : Settings)
    (read : ofEnvironmentBy c env = .ok settings) : settings.debug = debugRequested env := by
  obtain ⟨text, last, debug⟩ := debug_read c documented env distinct settings read
  rw [debug, Bool.eq_iff_iff, decide_eq_true_iff]
  cases text with
  | none =>
      have unnamed : ¬ debugRequested env = true := by
        intro requested
        have member := (requested_iff env distinct).mp requested
        have named : (⟨[], "1"⟩ : Naming) ∈ env.filterMap (naming? "debug") :=
          List.mem_filterMap.mpr ⟨_, member, (switch_naming _ "1").mpr rfl⟩
        rw [List.getLast?_eq_none_iff.mp last] at named
        cases named
      simp [unnamed]
  | some text =>
      obtain ⟨entry, member, given⟩ := List.mem_filterMap.mp (List.mem_of_getLast? last)
      rw [Option.some.injEq]
      exact taken_agrees env distinct entry member text given (agreed entry member)

theorem erase_unnamed (key : String) (entry : Bytes × Bytes) (front back : Environment)
    (unnamed : naming? key entry = .none) :
    (front ++ entry :: back).filterMap (naming? key) =
      (front ++ back ++ [entry]).filterMap (naming? key) := by
  simp [List.filterMap_cons_none unnamed]

-- A dissenting variable that is moved to the end decides the switch and nothing else.
theorem dissent_decides (c : Configuration) (documented : c.Documented) (env : Environment)
    (distinct : env.Distinct) (unbroken : ∀ order, order.Perm env → ¬ Breaks c order)
    (entry : Bytes × Bytes) (member : entry ∈ env) (dissents : Dissents env entry)
    (settings : Settings) (read : ofEnvironmentBy c env = .ok settings) :
    ∃ order settings', order.Perm env ∧ ofEnvironmentBy c order = .ok settings' ∧
      settings'.debug ≠ debugRequested env := by
  obtain ⟨_, ⟨steps, text⟩, given, rfl, against⟩ := (dissents_iff env entry).mp dissents
  obtain ⟨front, back, rfl⟩ := List.append_of_mem member
  have order : (front ++ back ++ [entry]).Perm (front ++ entry :: back) := by
    simpa using (List.perm_append_singleton entry back).append_left front
  have distinct' : Distinct (front ++ back ++ [entry]) :=
    (order.map Prod.fst).nodup_iff.mpr distinct
  obtain ⟨_, proxy, _, timeout, filter, first, _, third, fourth, rfl⟩ :=
    (settings_iff c _ documented settings (distinct_own _ distinct)).mp read
  have kept (key : String) (other : key ≠ "debug") (held : Option String)
      (told : told (own (front ++ entry :: back)).texts key = some held) :
      Settings.told (own (front ++ back ++ [entry])).texts key = some held := by
    have unnamed : naming? key entry = .none := by
      rw [Option.eq_none_iff_forall_ne_some]
      exact fun naming again => other (naming_once entry key "debug" _ _ again given)
    rw [told_iff, own_namings] at told ⊢
    rwa [← erase_unnamed key entry front back unnamed]
  have switched : told (own (front ++ back ++ [entry])).texts "debug" = some (some text) :=
    (told_iff _ _ _).mpr (last_naming _ entry "debug" _ given)
  refine ⟨_, _, order, (settings_iff c _ documented _ (distinct_own _ distinct')).mpr
    ⟨unbroken _ order, proxy, some text, timeout, filter, kept "proxy" (by decide) proxy first,
      switched, kept "timeout_ms" (by decide) timeout third,
      kept "log" (by decide) filter fourth, rfl⟩, ?_⟩
  intro same
  have on : decide (some text = some "1") = debugRequested (front ++ entry :: back) := same
  rw [Bool.eq_iff_iff, decide_eq_true_iff, Option.some.injEq] at on
  exact against on

theorem dissents_order (env order : Environment) (distinct : env.Distinct)
    (same : order.Perm env) (entry : Bytes × Bytes) :
    Dissents order entry ↔ Dissents env entry := by
  rw [dissents_iff, dissents_iff, requested_order env order distinct same]

-- Whether a process shows diagnostics.
def reports (c : Configuration) (program : Bytes) (env : Environment) : Bool :=
  (Startup.runBy c program env).any (·.reporter.filter.isSome)

theorem reports_read (c : Configuration) (program : Bytes) (env : Environment) (settings : Settings)
    (read : ofEnvironmentBy c env = .ok settings) : reports c program env = settings.debug := by
  obtain ⟨startup, ran, _, shown⟩ := Startup.run_read c program env settings read
  rw [reports, ran, Option.any_some, shown]

theorem reports_unread (c : Configuration) (program : Bytes) (env : Environment)
    (problem : SettingsProblem) (unread : ofEnvironmentBy c env = .error (.settings problem)) :
    reports c program env = debugRequested env := by
  obtain ⟨startup, ran, _, shown⟩ := Startup.run_unread c program env problem unread
  rw [reports, ran, Option.any_some, shown]

theorem reports_broken (c : Configuration) (program : Bytes) (env : Environment)
    (broken : Breaks c env) : reports c program env = false := by
  rw [reports, Startup.run_broken c program env broken, Option.any_none]

theorem switch_readings_agree (c : Configuration) (documented : c.Documented) (env : Environment)
    (distinct : env.Distinct) (program : Bytes) :
    (debugRequested env = true ↔ (Utf8.encode debugVariable, Utf8.encode "1") ∈ env) ∧
    ((∀ entry ∈ env, ¬ Indexed entry) → ∀ order, order.Perm env → ¬ Breaks c order) ∧
    (∀ order, order.Perm env → debugRequested order = debugRequested env ∧
      (Breaks c order → reports c program order = false) ∧
      ∀ problem, ofEnvironmentBy c order = .error (.settings problem) →
        reports c program order = debugRequested env) ∧
    ((∀ entry ∈ env, ¬ Dissents env entry) → ∀ order, order.Perm env → ¬ Breaks c order →
      reports c program order = debugRequested env ∧
      ∀ settings, ofEnvironmentBy c order = .ok settings → settings.debug = debugRequested env) ∧
    ((∀ order, order.Perm env → ¬ Breaks c order) → ∀ entry ∈ env, Dissents env entry →
      ∀ order settings, order.Perm env → ofEnvironmentBy c order = .ok settings →
        ∃ order' settings', order'.Perm env ∧ ofEnvironmentBy c order' = .ok settings' ∧
          settings'.debug ≠ debugRequested env ∧
          reports c program order' ≠ debugRequested env) := by
  have distinct' (order : Environment) (same : order.Perm env) : order.Distinct :=
    (same.map Prod.fst).nodup_iff.mpr distinct
  have unread (order : Environment) (same : order.Perm env) (problem : SettingsProblem)
      (unread : ofEnvironmentBy c order = .error (.settings problem)) :
      reports c program order = debugRequested env := by
    rw [reports_unread c program order problem unread, requested_order env order distinct same]
  refine ⟨requested_iff env distinct, ?whole, fun order same =>
    ⟨requested_order env order distinct same, reports_broken c program order, unread order same⟩,
    ?agreed, ?opposed⟩
  case whole =>
    intro unindexed order same
    exact unindexed_whole c order documented (distinct_own order (distinct' order same))
      fun entry member => unindexed entry (same.mem_iff.mp member)
  case agreed =>
    intro agreed order same whole
    have read (settings : Settings) (read : ofEnvironmentBy c order = .ok settings) :
        settings.debug = debugRequested env := by
      rw [← requested_order env order distinct same]
      refine agreed_debug c documented order (distinct' order same) (fun entry member => ?_)
        settings read
      rw [dissents_order env order distinct same]
      exact agreed entry (same.mem_iff.mp member)
    refine ⟨?_, read⟩
    rcases environment_cases c order with broken | ⟨settings, outcome⟩ | ⟨problem, outcome⟩
    · exact absurd broken whole
    · rw [reports_read c program order settings outcome, read settings outcome]
    · exact unread order same problem outcome
  case opposed =>
    intro unbroken entry member dissents order settings same read
    obtain ⟨order', settings', moved, read', differ⟩ :=
      dissent_decides c documented order (distinct' order same)
        (fun order' moved => unbroken order' (moved.trans same)) entry (same.mem_iff.mpr member)
        ((dissents_order env order distinct same entry).mpr dissents) settings read
    rw [requested_order env order distinct same] at differ
    refine ⟨order', settings', moved.trans same, read', differ, ?_⟩
    rwa [reports_read c program order' settings' read']

-- A switch that is named twice and on both times, beside a variable that spoils the settings.
def insistent : Environment := spelled
  [("SSHTUNNEL_DEBUG", "1"), ("SSHTUNNEL_Debug", "1"), ("SSHTUNNEL_LOG.X", "trace")]

theorem switch_readings_agree_insistent : insistent.Distinct ∧
    ∀ order, order.Perm insistent → reports .layered (Utf8.encode "host") order = true := by
  have distinct : insistent.Distinct := by unfold Distinct; decide
  obtain ⟨requested, whole, _, agreed, _⟩ := switch_readings_agree .layered
    Configuration.layered_documented insistent distinct (Utf8.encode "host")
  have on : debugRequested insistent = true := requested.mpr List.mem_cons_self
  refine ⟨distinct, fun order same => ?_⟩
  exact (agreed (by decide +kernel) order same (whole (by decide +kernel) order same)).1.trans on

-- The name in lower case turns the switch on as a setting, and is not the name of the switch; and
-- the switch is on in vain beside an index that no array has.
theorem readings_differ :
    (ofEnvironment (spelled [("SSHTUNNEL_debug", "1")])).toOption.map (·.debug) = some true ∧
      debugRequested (spelled [("SSHTUNNEL_debug", "1")]) = false ∧
      reports .layered (Utf8.encode "host") (spelled [("SSHTUNNEL_debug", "1")]) = true ∧
    debugRequested (spelled [("SSHTUNNEL_DEBUG", "1"),
      ("SSHTUNNEL_X[9223372036854775807]", "1")]) = true ∧
    reports .layered (Utf8.encode "host") (spelled [("SSHTUNNEL_DEBUG", "1"),
      ("SSHTUNNEL_X[9223372036854775807]", "1")]) = false := by
  decide +kernel

end ProxyTunnel.Settings
