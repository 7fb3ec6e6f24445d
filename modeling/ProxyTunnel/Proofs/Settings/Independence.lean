import ProxyTunnel.Proofs.Settings.Limit
import ProxyTunnel.Proofs.Settings.Variables

/-!
Settings one by one. In an environment whose variables for settings are named plainly, and no two of
them alike but for case, every setting follows the one variable that is for it.
-/

set_option autoImplicit false

namespace ProxyTunnel

namespace Settings

open Environment Layers

theorem last_single {α : Type} (l : List α) (single : l.Pairwise fun _ _ => False) (a : α) :
    l.getLast? = some a ↔ a ∈ l := by
  cases l with
  | nil => simp
  | cons first rest =>
      have alone : rest = [] :=
        List.eq_nil_iff_forall_not_mem.mpr (List.pairwise_cons.mp single).1
      rw [alone, List.getLast?_singleton, List.mem_singleton, Option.some.injEq, eq_comm]

-- No variable for settings has a name with steps, and none is named like another but for case.
structure Fit (env : Environment) : Prop where
  plain : ∀ entry ∈ env, ∀ name text, Sets entry name text →
    '.' ∉ name.toList ∧ '[' ∉ name.toList
  apart : env.Pairwise fun entry entry' => ∀ name text name' text', Sets entry name text →
    Sets entry' name' text' → Text.lower name ≠ Text.lower name'

-- What the variable for a setting says.
def Says (env : Environment) (key text : String) : Prop :=
  ∃ entry ∈ env, ∃ name, Sets entry name text ∧ Text.lower name = Layers.head ++ key

-- Each setting as its own variable has it.
structure Follows (env : Environment) (settings : Settings) : Prop where
  proxy : ∀ url, settings.proxy = some url ↔ Says env "proxy" url
  debug : settings.debug = true ↔ Says env "debug" "1"
  budget : ∀ limit, settings.budget = some limit ↔
    ∃ text n, Says env "timeout_ms" text ∧ Limits text n ∧ limit = .ofMillis n
  filter : ∀ text, settings.filter = some text ↔ Says env "log" text ∧ text ≠ ""

theorem fit_iff (env : Environment) : Fit env ↔
    (∀ given ∈ env.filterMap setting?, '.' ∉ given.1.toList ∧ '[' ∉ given.1.toList) ∧
      (env.filterMap setting?).Pairwise fun given given' =>
        Text.lower given.1 ≠ Text.lower given'.1 := by
  rw [List.pairwise_filterMap]
  constructor
  · rintro ⟨plain, apart⟩
    refine ⟨?_, apart.imp fun apart => ?_⟩
    · rintro ⟨name, text⟩ member
      obtain ⟨entry, inside, first⟩ := List.mem_filterMap.mp member
      exact plain entry inside name text ((setting_iff entry name text).mp first)
    · rintro ⟨name, text⟩ first ⟨name', text'⟩ second
      exact apart name text name' text' ((setting_iff _ name text).mp first)
        ((setting_iff _ name' text').mp second)
  · rintro ⟨plain, apart⟩
    refine ⟨fun entry inside name text sets => ?_, apart.imp fun apart => ?_⟩
    · exact plain (name, text)
        (List.mem_filterMap.mpr ⟨entry, inside, (setting_iff _ _ _).mpr sets⟩)
    · intro name text name' text' sets sets'
      exact apart (name, text) ((setting_iff _ _ _).mpr sets) (name', text')
        ((setting_iff _ _ _).mpr sets')

instance (env : Environment) : Decidable (Fit env) := decidable_of_iff _ (fit_iff env).symm

-- A name without marks leads nowhere but to what it names as a whole.
theorem unmarked_steps (name key : String) (steps : List PathStep) (dot : '.' ∉ name.toList)
    (bracket : '[' ∉ name.toList) (names : Names name key steps) : steps = [] := by
  obtain ⟨rest, whole, spells⟩ := names
  have unmarked (mark : Char) (marks : mark = '.' ∨ mark = '[') (absent : mark ∉ name.toList) :
      mark ∉ rest := by
    intro member
    refine Text.lower_unmarked name mark marks absent ?_
    rw [whole, String.toList_append, String.toList_ofList]
    exact List.mem_append_right _ member
  cases spells with
  | done => rfl
  | name => exact absurd List.mem_cons_self (unmarked '.' (.inl rfl) dot)
  | index => exact absurd List.mem_cons_self (unmarked '[' (.inr rfl) bracket)

section

variable (env : Environment) (fit : Fit env) (key : String) (plain : Path.Plain key)

include fit plain

theorem naming_fit (entry : Bytes × Bytes) (inside : entry ∈ env) (naming : Naming) :
    naming? key entry = some naming ↔
      ∃ name text, Sets entry name text ∧ Text.lower name = Layers.head ++ key ∧
        naming = ⟨[], text⟩ := by
  rw [naming_leads key entry naming plain]
  constructor
  · rintro ⟨name, sets, names⟩
    obtain ⟨dot, bracket⟩ := fit.plain entry inside name naming.text sets
    rcases naming with ⟨steps, text⟩
    cases unmarked_steps name key steps dot bracket names
    exact ⟨name, text, sets, (names_whole name key).mp names, rfl⟩
  · rintro ⟨name, text, sets, same, rfl⟩
    exact ⟨name, sets, (names_whole name key).mpr same⟩

-- A setting is named once at most.
theorem namings_fit : (namings key (own env).texts).Pairwise fun _ _ => False := by
  rw [own_namings, List.pairwise_filterMap]
  refine fit.apart.imp_of_mem fun inside inside' apart naming named naming' named' => ?_
  obtain ⟨name, text, sets, same, _⟩ := (naming_fit env fit key plain _ inside naming).mp named
  obtain ⟨name', text', sets', same', _⟩ :=
    (naming_fit env fit key plain _ inside' naming').mp named'
  exact apart name text name' text' sets sets' (same.trans same'.symm)

theorem told_says : ∃ given, told (own env).texts key = some given ∧
    ∀ text, given = some text ↔ Says env key text := by
  have named (naming : Naming) : naming ∈ namings key (own env).texts ↔
      ∃ entry ∈ env, ∃ name text, Sets entry name text ∧
        Text.lower name = Layers.head ++ key ∧ naming = ⟨[], text⟩ := by
    rw [own_namings, List.mem_filterMap]
    exact exists_congr fun entry => and_congr_right fun inside =>
      naming_fit env fit key plain entry inside naming
  refine ⟨_, told_plain _ key fun naming member => ?_, fun text => ?_⟩
  · obtain ⟨_, _, _, _, _, _, rfl⟩ := (named naming).mp member
    rfl
  · rw [Option.map_eq_some_iff]
    constructor
    · rintro ⟨naming, last, rfl⟩
      obtain ⟨entry, inside, name, text, sets, same, rfl⟩ :=
        (named naming).mp ((last_single _ (namings_fit env fit key plain) naming).mp last)
      exact ⟨entry, inside, name, sets, same⟩
    · rintro ⟨entry, inside, name, sets, same⟩
      refine ⟨⟨[], text⟩, (last_single _ (namings_fit env fit key plain) _).mpr ?_, rfl⟩
      exact (named _).mpr ⟨entry, inside, name, text, sets, same, rfl⟩

end

theorem own_sets (entry : Bytes × Bytes) (text : isText entry = true)
    (mine : ownName entry.1 = true) : ∃ name text, Sets entry name text := by
  obtain ⟨name, named⟩ := Option.isSome_iff_exists.mp (Bool.and_eq_true_iff.mp text).1
  obtain ⟨text, held⟩ := Option.isSome_iff_exists.mp (Bool.and_eq_true_iff.mp text).2
  refine ⟨name, text, (setting_iff entry name text).mp ?_⟩
  simp only [ownName, named, Option.any_some] at mine
  simp only [setting?, named, held, if_pos mine]

theorem fit_distinct (env : Environment) (fit : Fit env) : (own env).Distinct := by
  rw [Environment.Distinct, own, only, List.Nodup, List.pairwise_map, List.pairwise_filter,
    List.pairwise_filter]
  refine fit.apart.imp fun {entry entry'} apart text text' mine mine' same => ?_
  obtain ⟨name, held, sets⟩ := own_sets entry text mine
  obtain ⟨name', held', sets'⟩ := own_sets entry' text' mine'
  have spelled : Utf8.encode name = Utf8.encode name' := by
    rw [sets.spelled, sets'.spelled] at same
    exact same
  exact apart name held name' held' sets sets'
    (congrArg Text.lower (Utf8.encode_inj name name' spelled))

theorem environment_follows (env : Environment) (fit : Fit env) :
    ∃ settings, ofEnvironment env = .ok settings ∧ Follows env settings := by
  have told (key : String) (member : key ∈ keys) := told_says env fit key (keys_plain key member)
  obtain ⟨proxy, told_proxy, says_proxy⟩ := told "proxy" (by decide)
  obtain ⟨debug, told_debug, says_debug⟩ := told "debug" (by decide)
  obtain ⟨timeout, told_timeout, says_timeout⟩ := told "timeout_ms" (by decide)
  obtain ⟨filter, told_filter, says_filter⟩ := told "log" (by decide)
  have whole : ¬ Breaks .layered env := by
    refine unindexed_whole _ _ Configuration.layered_documented (fit_distinct env fit) ?_
    rintro entry member ⟨name, text, sets, marked⟩
    exact (fit.plain entry member name text sets).2 marked
  refine ⟨ofTexts proxy debug timeout filter, ?_, says_proxy, ?_, fun limit => ?_, fun text => ?_⟩
  · exact (settings_iff _ env Configuration.layered_documented _ (fit_distinct env fit)).mpr
      ⟨whole, proxy, debug, timeout, filter, told_proxy, told_debug, told_timeout, told_filter, rfl⟩
  · exact decide_eq_true_iff.trans (says_debug "1")
  · rw [ofTexts, Option.bind_eq_some_iff]
    constructor
    · rintro ⟨text, given, limited⟩
      obtain ⟨n, limits, same⟩ := (budget_iff text limit).mp limited
      exact ⟨text, n, (says_timeout text).mp given, limits, same⟩
    · rintro ⟨text, n, said, limits, same⟩
      exact ⟨text, (says_timeout text).mpr said, (budget_iff text limit).mpr ⟨n, limits, same⟩⟩
  · rw [ofTexts, Option.filter_eq_some_iff, says_filter text, decide_eq_true_iff]

-- What is said about the four settings is all that they depend on.
theorem follows_same (env env' : Environment) (settings settings' : Settings)
    (follows : Follows env settings) (follows' : Follows env' settings')
    (alike : ∀ key ∈ keys, ∀ text, Says env' key text ↔ Says env key text) :
    settings' = settings := by
  have proxy := alike "proxy" (by decide)
  have debug := alike "debug" (by decide) "1"
  have timeout := alike "timeout_ms" (by decide)
  have filter := alike "log" (by decide)
  cases settings
  cases settings'
  rw [mk.injEq]
  refine ⟨Option.ext fun url => ?_, Bool.eq_iff_iff.mpr ?_, Option.ext fun limit => ?_,
    Option.ext fun text => ?_⟩
  · exact (follows'.proxy url).trans ((proxy url).trans (follows.proxy url).symm)
  · exact follows'.debug.trans (debug.trans follows.debug.symm)
  · refine (follows'.budget limit).trans (Iff.trans ?_ (follows.budget limit).symm)
    simp only [timeout]
  · refine (follows'.filter text).trans (Iff.trans ?_ (follows.filter text).symm)
    rw [filter text]

-- The order does not matter, nor does a variable that is not for settings.
theorem fit_among (env others env' : Environment) (fit : Fit env)
    (foreign : ∀ entry ∈ others, ∀ name text, ¬ Sets entry name text)
    (order : env'.Perm (env ++ others)) :
    Fit env' ∧ ∀ key text, Says env' key text ↔ Says env key text := by
  have within (entry : Bytes × Bytes) (name text : String) (sets : Sets entry name text) :
      entry ∈ env' ↔ entry ∈ env := by
    rw [order.mem_iff, List.mem_append, or_iff_left]
    exact fun member => foreign entry member name text sets
  refine ⟨⟨fun entry inside name text sets => ?_, ?_⟩, fun key text => ?_⟩
  · exact fit.plain entry ((within entry name text sets).mp inside) name text sets
  · rw [order.pairwise_iff fun apart name text name' text' sets sets' =>
      (apart name' text' name text sets' sets).symm, List.pairwise_append]
    refine ⟨fit.apart, ?_, ?_⟩
    · exact List.pairwise_of_forall_mem_list fun entry member _ _ name text _ _ sets =>
        absurd sets (foreign entry member name text)
    · exact fun _ _ entry' member' _ _ name' text' _ sets' =>
        absurd sets' (foreign entry' member' name' text')
  · exact exists_congr fun entry => and_congr_left fun ⟨name, sets, _⟩ =>
      within entry name text sets

theorem settings_independent (env : Environment) (fit : Fit env) :
    ∃ settings, ofEnvironment env = .ok settings ∧ Follows env settings ∧
      (∀ env', Fit env' → (∀ key ∈ keys, ∀ text, Says env' key text ↔ Says env key text) →
        ofEnvironment env' = .ok settings) ∧
      ∀ others env', (∀ entry ∈ others, ∀ name text, ¬ Sets entry name text) →
        env'.Perm (env ++ others) → ofEnvironment env' = .ok settings := by
  obtain ⟨settings, read, follows⟩ := environment_follows env fit
  have alike (env' : Environment) (fit' : Fit env')
      (same : ∀ key ∈ keys, ∀ text, Says env' key text ↔ Says env key text) :
      ofEnvironment env' = .ok settings := by
    obtain ⟨settings', read', follows'⟩ := environment_follows env' fit'
    rw [read', follows_same env env' settings settings' follows follows' same]
  refine ⟨settings, read, follows, alike, fun others env' foreign order => ?_⟩
  obtain ⟨fit', same⟩ := fit_among env others env' fit foreign order
  exact alike env' fit' fun key _ => same key

-- A setting in mixed case and one with a sign and zeros, after a variable that is no text.
theorem settings_independent_mixed :
    Fit (spelled [("SSHTUNNEL_Proxy", "http://localhost:80"), ("SSHTUNNEL_TIMEOUT_MS", " +007")]) ∧
    ∃ settings, ofEnvironment ((Utf8.encode "SSHTUNNEL_LOG", [255]) ::
      spelled [("SSHTUNNEL_Proxy", "http://localhost:80"), ("SSHTUNNEL_TIMEOUT_MS", " +007")]) =
        .ok settings ∧
      settings.proxy = some "http://localhost:80" ∧ settings.budget = some (.ofMillis 7) := by
  have fit : Fit (spelled [("SSHTUNNEL_Proxy", "http://localhost:80"),
    ("SSHTUNNEL_TIMEOUT_MS", " +007")]) := by decide +kernel
  obtain ⟨settings, _, follows, _, among⟩ := settings_independent _ fit
  have foreign : ∀ entry ∈ [(Utf8.encode "SSHTUNNEL_LOG", ([255] : Bytes))],
      ∀ name text, ¬ Sets entry name text := by
    intro entry member name text sets
    have unset : setting? (Utf8.encode "SSHTUNNEL_LOG", [255]) = Option.none := by decide +kernel
    rw [List.mem_singleton] at member
    subst member
    have given := (setting_iff _ _ _).mpr sets
    rw [unset] at given
    cases given
  have limits : Limits " +007" 7 := by
    have blank : Text.isBlank ' ' = true := by decide
    refine ⟨⟨[' '], ['+'], ['0', '0', '7'], [], rfl, by simpa using blank, .inr rfl, ?_⟩, ?_, ?_⟩
    · exact (Decimal.read_iff _ _).mp (by decide)
    · decide
    · decide
  refine ⟨fit, settings, among _ _ foreign (List.perm_append_singleton _ _).symm, ?_, ?_⟩
  · refine (follows.proxy _).mpr ⟨_, List.mem_cons_self, "SSHTUNNEL_Proxy", ⟨rfl, ?_⟩, by decide⟩
    decide
  · refine (follows.budget _).mpr ⟨" +007", 7, ?_, limits, rfl⟩
    refine ⟨_, List.mem_cons_of_mem _ List.mem_cons_self, "SSHTUNNEL_TIMEOUT_MS", ⟨rfl, ?_⟩, ?_⟩
    · decide
    · decide

end Settings

end ProxyTunnel
