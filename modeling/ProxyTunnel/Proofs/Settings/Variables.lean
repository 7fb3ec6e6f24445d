import ProxyTunnel.Intercept.Startup
import ProxyTunnel.Proofs.Settings.Documented
import ProxyTunnel.Proofs.Text.Utf8

/-!
The variables of an environment that hold settings, and what a process makes of them. As long as
their names are distinct, the rest of the environment does not matter.
-/

set_option autoImplicit false

namespace ProxyTunnel

namespace Environment

def Distinct (env : Environment) : Prop := (env.map Prod.fst).Nodup

theorem set_new (env : Environment) (name value : Bytes) (new : name ∉ env.map Prod.fst) :
    env.set name value = env ++ [(name, value)] := by
  fun_induction set env name value with
  | case1 => rfl
  | case2 v rest => simp at new
  | case3 n v rest differ ih => rw [ih (fun held => new (List.mem_cons_of_mem _ held))]; rfl

theorem set_more (env entries : Environment) (name value : Bytes) :
    env.setAll ((name, value) :: entries) = (env.set name value).setAll entries := rfl

theorem set_new_all (env entries : Environment)
    (distinct : Distinct (env ++ entries)) : env.setAll entries = env ++ entries := by
  induction entries generalizing env with
  | nil => exact (List.append_nil env).symm
  | cons entry rest ih =>
      rcases entry with ⟨name, value⟩
      have new : name ∉ env.map Prod.fst := by
        intro held
        rw [Distinct, List.map_append, List.nodup_append] at distinct
        exact distinct.2.2 name held name (by simp) rfl
      rw [set_more, set_new env name value new, ih _ (by simpa [Distinct] using distinct),
        List.append_assoc]
      rfl

theorem distinct_list (entries : Environment) (distinct : entries.Distinct) :
    ofList entries = entries := set_new_all [] entries distinct

theorem lookup_iff (env : Environment) (name value : Bytes) (distinct : env.Distinct) :
    env.lookup name = some value ↔ (name, value) ∈ env := by
  induction env with
  | nil => simp
  | cons entry rest ih =>
      rcases entry with ⟨n, v⟩
      obtain ⟨new, distinct⟩ := List.nodup_cons.mp distinct
      by_cases same : name = n
      · subst same
        have other : (name, value) ∉ rest :=
          fun member => new (List.mem_map.mpr ⟨_, member, rfl⟩)
        simp [other, eq_comm]
      · rw [List.lookup_cons, beq_false_of_ne same, List.mem_cons, Prod.mk.injEq]
        simp [same, ih distinct]

theorem set_read (env : Environment) (name value : Bytes) :
    (env.set name value).lookup name = some value := by
  fun_induction set env name value with
  | case1 => simp
  | case2 v rest => simp
  | case3 n v rest differ ih => rw [List.lookup_cons, beq_false_of_ne (Ne.symm differ), ih]

theorem set_read_other (env : Environment) (name value other : Bytes) (apart : other ≠ name) :
    (env.set name value).lookup other = env.lookup other := by
  fun_induction set env name value with
  | case1 => simp [apart]
  | case2 v rest => simp [List.lookup_cons, beq_false_of_ne apart]
  | case3 n v rest differ ih => rw [List.lookup_cons, List.lookup_cons, ih]

theorem set_all_read_other (env entries : Environment) (other : Bytes)
    (apart : other ∉ entries.map Prod.fst) :
    (env.setAll entries).lookup other = env.lookup other := by
  induction entries generalizing env with
  | nil => rfl
  | cons entry rest ih =>
      obtain ⟨first, later⟩ := not_or.mp (mt List.mem_cons.mpr apart)
      exact (ih _ later).trans (set_read_other env entry.1 entry.2 other first)

theorem set_order (env : Environment) (name value : Bytes) (distinct : env.Distinct) :
    (env.set name value).Perm ((name, value) :: env.unset name) := by
  fun_induction set env name value with
  | case1 => exact .refl _
  | case2 v rest =>
      have others : ∀ entry ∈ rest, entry.1 ≠ name := by
        rintro entry member rfl
        exact (List.nodup_cons.mp distinct).1 (List.mem_map.mpr ⟨entry, member, rfl⟩)
      have unset : unset ((name, v) :: rest) name = rest := by
        rw [Environment.unset, List.filter_cons_of_neg (by simp), List.filter_eq_self]
        simpa using others
      rw [unset]
  | case3 n v rest differ ih =>
      have unset : unset ((n, v) :: rest) name = (n, v) :: unset rest name :=
        List.filter_cons_of_pos (by simpa using differ)
      rw [unset]
      exact ((ih (List.nodup_cons.mp distinct).2).cons _).trans (.swap _ _ _)

theorem set_distinct (env : Environment) (name value : Bytes) (distinct : env.Distinct) :
    (env.set name value).Distinct := by
  refine ((set_order env name value distinct).map Prod.fst).nodup_iff.mpr ?_
  rw [List.map_cons, List.nodup_cons]
  refine ⟨?_, List.Nodup.sublist (List.filter_sublist.map _) distinct⟩
  simp [unset]

theorem set_all_distinct (env entries : Environment) (distinct : env.Distinct) :
    (env.setAll entries).Distinct := by
  induction entries generalizing env with
  | nil => exact distinct
  | cons entry rest ih => exact ih _ (set_distinct env entry.1 entry.2 distinct)

theorem set_within (env : Environment) (name value : Bytes) :
    ∀ entry ∈ env.set name value, entry = (name, value) ∨ entry ∈ env := by
  fun_induction set env name value with
  | case1 => simp
  | case2 v rest =>
      intro entry member
      exact (List.mem_cons.mp member).imp_right (List.mem_cons_of_mem _)
  | case3 n v rest differ ih =>
      intro entry member
      rcases List.mem_cons.mp member with rfl | inside
      · exact .inr List.mem_cons_self
      · exact (ih entry inside).imp_right (List.mem_cons_of_mem _)

theorem set_all_within (env entries : Environment) :
    ∀ entry ∈ env.setAll entries, entry ∈ env ∨ entry ∈ entries := by
  induction entries generalizing env with
  | nil => exact fun entry member => .inl member
  | cons given rest ih =>
      intro entry member
      rcases ih _ entry member with set | later
      · rcases set_within env given.1 given.2 entry set with rfl | before
        · exact .inr List.mem_cons_self
        · exact .inl before
      · exact .inr (List.mem_cons_of_mem _ later)

-- What is read of a list of variables: those that are text, each name with its last text.
def latest (env : Environment) : Environment := ofList (env.filter isText)

theorem latest_distinct (env : Environment) : (latest env).Distinct :=
  set_all_distinct [] _ List.nodup_nil

theorem latest_within (env : Environment) :
    ∀ entry ∈ latest env, entry ∈ env ∧ isText entry = true := by
  intro entry member
  rcases set_all_within [] _ entry member with none | inside
  · cases none
  · exact List.mem_filter.mp inside

theorem latest_twice (env : Environment) : latest (latest env) = latest env := by
  have text : (latest env).filter isText = latest env :=
    List.filter_eq_self.mpr fun entry member => (latest_within env entry member).2
  rw [latest, text]
  exact distinct_list _ (latest_distinct env)

-- Any variable may come last.
theorem comes_last (env : Environment) (entry : Bytes × Bytes) (member : entry ∈ env) :
    ∃ before, (before ++ [entry]).Perm env :=
  ⟨_, (List.perm_append_singleton _ _).trans (List.perm_cons_erase member).symm⟩

-- What stays of an environment when other variables are set over it.
def besides (env entries : Environment) : Environment :=
  env.filter fun entry => entry.1 ∉ entries.map Prod.fst

theorem set_all_order (env entries : Environment) (distinct : env.Distinct)
    (given : entries.Distinct) : (env.setAll entries).Perm (entries ++ env.besides entries) := by
  induction entries generalizing env with
  | nil => exact .of_eq (List.filter_eq_self.mpr (by simp)).symm
  | cons first rest ih =>
      rcases first with ⟨name, value⟩
      obtain ⟨new, rest_given⟩ := List.nodup_cons.mp given
      have next := ih (env.set name value) (set_distinct env name value distinct) rest_given
      have stays : ((env.set name value).besides rest).Perm
          ((name, value) :: env.besides ((name, value) :: rest)) := by
        have both : (env.unset name).besides rest = env.besides ((name, value) :: rest) := by
          rw [besides, besides, unset, List.filter_filter]
          refine List.filter_congr fun entry _ => ?_
          by_cases same : entry.1 = name <;> simp [same]
        rw [← both]
        refine ((set_order env name value distinct).filter _).trans (.of_eq ?_)
        exact List.filter_cons_of_pos (by simpa using new)
      rw [set_more]
      exact next.trans ((stays.append_left rest).trans List.perm_middle)

variable (chosen : Bytes → Bool)

def only (env : Environment) : Environment := env.filter fun entry => chosen entry.1

theorem only_more (entries : Environment) (name value : Bytes) :
    only chosen ((name, value) :: entries) =
      if chosen name then (name, value) :: only chosen entries else only chosen entries :=
  List.filter_cons

theorem only_set (env : Environment) (name value : Bytes) :
    only chosen (env.set name value) =
      if chosen name then (only chosen env).set name value else only chosen env := by
  by_cases wanted : chosen name = true
  · rw [if_pos wanted]
    fun_induction set env name value with
    | case1 => simp [only, wanted, set]
    | case2 v rest => simp [only, wanted, set]
    | case3 n v rest differ ih =>
        by_cases kept : chosen n = true
        · simp only [only_more, if_pos kept, ih, set, if_neg differ]
        · simp only [only_more, if_neg kept, ih]
  · rw [if_neg wanted]
    fun_induction set env name value with
    | case1 => simp [only, wanted]
    | case2 v rest => simp [only, wanted]
    | case3 n v rest differ ih => simp only [only_more, ih]

theorem only_set_all (env entries : Environment) :
    only chosen (env.setAll entries) = (only chosen env).setAll (only chosen entries) := by
  induction entries generalizing env with
  | nil => rfl
  | cons entry rest ih =>
      rcases entry with ⟨name, value⟩
      rw [set_more, ih, only_set, only_more]
      by_cases wanted : chosen name = true
      · rw [if_pos wanted, if_pos wanted]
        rfl
      · rw [if_neg wanted, if_neg wanted]

theorem texts_more (entries : Environment) (name value : Bytes) :
    texts ((name, value) :: entries) =
      match Utf8.decode? name, Utf8.decode? value with
      | some name, some value => (name, value) :: texts entries
      | _, _ => texts entries := by
  cases named : Utf8.decode? name with
  | none => simp [texts, named]
  | some n => cases held : Utf8.decode? value <;> simp [texts, named, held]

-- Variables as they are passed on, in bytes.
def spelled (entries : List (String × String)) : Environment :=
  entries.map fun (name, value) => (Utf8.encode name, Utf8.encode value)

theorem spelled_texts (entries : List (String × String)) : (spelled entries).texts = entries := by
  induction entries with
  | nil => rfl
  | cons entry rest ih =>
      rcases entry with ⟨name, value⟩
      rw [spelled, List.map_cons, texts_more, Utf8.decode_encode, Utf8.decode_encode]
      exact congrArg _ ih

end Environment

namespace Settings

open Environment Layers

-- Whether settings are looked for under a name.
def ownName (name : Bytes) : Bool := (Utf8.decode? name).any isOwn

-- The variables that settings are read from.
def own (env : Environment) : Environment := only ownName (env.filter isText)

theorem own_texts (env : Environment) :
    env.texts.filter (fun entry => isOwn entry.1) = (only ownName env).texts := by
  induction env with
  | nil => rfl
  | cons entry rest ih =>
      rcases entry with ⟨name, value⟩
      rw [only_more, texts_more, ownName]
      cases named : Utf8.decode? name with
      | none => simpa using ih
      | some n =>
          cases held : Utf8.decode? value with
          | none => by_cases mine : isOwn n = true <;> simp [mine, texts_more, named, held, ih]
          | some v => by_cases mine : isOwn n = true <;> simp [mine, texts_more, named, held, ih]

theorem own_source (env : Environment) (distinct : (own env).Distinct) :
    Settings.source env = (own env).texts := by
  have chosen : only ownName (ofList (env.filter isText)) = own env := by
    rw [ofList, only_set_all]
    exact distinct_list _ distinct
  rw [← chosen, ← own_texts]
  rfl

theorem distinct_own (env : Environment) (distinct : env.Distinct) : (own env).Distinct :=
  List.Nodup.sublist ((List.filter_sublist.trans List.filter_sublist).map _) distinct

theorem source_latest (env : Environment) : Settings.source env.latest = Settings.source env := by
  have same : ofList (env.latest.filter isText) = ofList (env.filter isText) := latest_twice env
  rw [Settings.source, Settings.source, same]

def nameHead : String := "SSHTUNNEL_"

-- A variable for settings: it is text, and its name starts with the common head.
structure Sets (entry : Bytes × Bytes) (name text : String) : Prop where
  spelled : entry = (Utf8.encode name, Utf8.encode text)
  headed : nameHead.toList <+: name.toList

def setting? (entry : Bytes × Bytes) : Option (String × String) :=
  match Utf8.decode? entry.1, Utf8.decode? entry.2 with
  | some name, some text => if isOwn name then some (name, text) else .none
  | _, _ => .none

theorem setting_iff (entry : Bytes × Bytes) (name text : String) :
    setting? entry = some (name, text) ↔ Sets entry name text := by
  rcases entry with ⟨first, second⟩
  have own : isOwn name = true ↔ nameHead.toList <+: name.toList := List.isPrefixOf_iff_prefix
  constructor
  · intro given
    rw [setting?] at given
    split at given
    · next n t named held =>
        obtain ⟨mine, same⟩ := Option.ite_none_right_eq_some.mp given
        cases same
        refine ⟨?_, own.mp mine⟩
        rw [Utf8.decode_spells _ _ named, Utf8.decode_spells _ _ held]
    · cases given
  · rintro ⟨spelled, headed⟩
    cases spelled
    simp only [setting?, Utf8.decode_encode, if_pos (own.mpr headed)]

theorem own_given (env : Environment) : (own env).texts = env.filterMap setting? := by
  induction env with
  | nil => rfl
  | cons entry rest ih =>
      rcases entry with ⟨name, value⟩
      rw [List.filterMap_cons, ← ih, setting?, own, List.filter_cons, isText]
      cases named : Utf8.decode? name with
      | none => simp [own]
      | some n =>
          cases held : Utf8.decode? value with
          | none => simp [own]
          | some v =>
              by_cases mine : isOwn n = true
              · have kept : ownName name = true := by simp [ownName, named, mine]
                simp [only_more, kept, texts_more, named, held, mine, own]
              · have passed : ¬ ownName name = true := by simp [ownName, named, mine]
                simp [only_more, passed, mine, own]

-- How a variable names a setting, if it is read at all.
def naming? (key : String) (entry : Bytes × Bytes) : Option Naming :=
  (setting? entry).bind (namingOf? key)

theorem own_namings (env : Environment) (key : String) :
    namings key (own env).texts = env.filterMap (naming? key) := by
  rw [own_given, namings, List.filterMap_filterMap]
  rfl

-- The name of a variable leads to a setting by steps; it may be in any case.
def Leads (entry : Bytes × Bytes) (key : String) (steps : List PathStep) (text : String) : Prop :=
  ∃ name, Sets entry name text ∧ Names name key steps

theorem naming_leads (key : String) (entry : Bytes × Bytes) (naming : Naming)
    (plain : Path.Plain key) :
    naming? key entry = some naming ↔ Leads entry key naming.steps naming.text := by
  rw [naming?, Option.bind_eq_some_iff]
  constructor
  · rintro ⟨⟨name, text⟩, given, named⟩
    obtain ⟨names, same⟩ := (naming_iff key name text naming plain).mp named
    exact ⟨name, same ▸ (setting_iff entry name text).mp given, names⟩
  · rintro ⟨name, sets, names⟩
    exact ⟨(name, naming.text), (setting_iff _ _ _).mpr sets,
      (naming_iff key name _ naming plain).mpr ⟨names, rfl⟩⟩

-- A variable is for one setting only.
theorem naming_once (entry : Bytes × Bytes) (key other : String) (naming naming' : Naming)
    (given : naming? key entry = some naming) (again : naming? other entry = some naming') :
    key = other := by
  obtain ⟨set, found, given⟩ := Option.bind_eq_some_iff.mp given
  obtain ⟨_, same, again⟩ := Option.bind_eq_some_iff.mp again
  cases found.symm.trans same
  rw [namingOf?.eq_def] at given again
  split at given
  · cases given
  · next setting found =>
      simp only [found, Option.ite_none_right_eq_some] at given again
      exact given.1.symm.trans again.1

-- The last variable that names a setting decides it.
theorem last_naming (before : Environment) (entry : Bytes × Bytes) (key : String) (naming : Naming)
    (given : naming? key entry = some naming) :
    (namings key (own (before ++ [entry])).texts).getLast? = some naming := by
  rw [own_namings, List.filterMap_append, List.filterMap_cons_some given]
  simp

theorem own_starts (name : Bytes) (mine : ownName name = true) :
    Utf8.encode nameHead <+: name := by
  rw [ownName] at mine
  cases decoded : Utf8.decode? name with
  | none => simp [decoded] at mine
  | some text =>
      rw [decoded, Option.any_some, isOwn, List.isPrefixOf_iff_prefix] at mine
      obtain ⟨rest, spells⟩ := mine
      have whole : text = nameHead ++ String.ofList rest := by
        rw [← String.toList_inj, String.toList_append, String.toList_ofList]
        exact spells.symm
      rw [← Utf8.decode_spells name text decoded, whole, Utf8.encode_append]
      exact List.prefix_append _ _

theorem own_spelled (entries : List (String × String)) :
    own (spelled entries) = spelled (entries.filter fun entry => isOwn entry.1) := by
  induction entries with
  | nil => rfl
  | cons entry rest ih =>
      rcases entry with ⟨name, value⟩
      have text : isText (Utf8.encode name, Utf8.encode value) = true := by
        simp [isText, Utf8.decode_encode]
      have same : ownName (Utf8.encode name) = isOwn name := by
        simp [ownName, Utf8.decode_encode]
      rw [own, spelled, List.map_cons, List.filter_cons_of_pos text, only_more, same,
        List.filter_cons]
      by_cases mine : isOwn name = true
      · rw [if_pos mine, if_pos mine]
        exact congrArg _ ih
      · rw [if_neg mine, if_neg mine]
        exact ih

theorem own_append (env others : Environment) : own (env ++ others) = own env ++ own others := by
  rw [own, List.filter_append, only, List.filter_append]
  rfl

theorem own_perm (env others : Environment) (order : env.Perm others) :
    (own env).Perm (own others) := (order.filter _).filter _

section

variable (c : Configuration) (env : Environment)

-- Reading the variables ends in a panic.
def Breaks : Prop := ofEnvironmentBy c env = .error .panic

theorem environment_loaded (state : c.State) (loaded : c.load (source env) = some state) :
    ofEnvironmentBy c env = match ofFound (c.read state) with
      | .ok settings => .ok settings
      | .error problem => .error (.settings problem) := by
  rw [ofEnvironmentBy, loaded]
  dsimp only
  cases ofFound (c.read state) <;> rfl

theorem breaks_iff : Breaks c env ↔ c.load (source env) = .none := by
  rw [Breaks]
  cases loaded : c.load (source env) with
  | none => simp [ofEnvironmentBy, loaded]
  | some state =>
      rw [environment_loaded c env state loaded]
      cases ofFound (c.read state) <;> simp

theorem environment_latest : ofEnvironmentBy c env = ofEnvironmentBy c env.latest := by
  rw [ofEnvironmentBy, ofEnvironmentBy, source_latest]

theorem environment_cases : Breaks c env ∨ (∃ settings, ofEnvironmentBy c env = .ok settings) ∨
    ∃ problem, ofEnvironmentBy c env = .error (.settings problem) := by
  cases loaded : c.load (source env) with
  | none => exact .inl ((breaks_iff c env).mpr loaded)
  | some state =>
      rw [environment_loaded c env state loaded]
      cases ofFound (c.read state) with
      | ok settings => exact .inr (.inl ⟨settings, rfl⟩)
      | error problem => exact .inr (.inr ⟨problem, rfl⟩)

theorem found_iff (found : String → Reading) (settings : Settings) : ofFound found = .ok settings ↔
    ∃ proxy debug timeout filter, (found "proxy").toOption = some proxy ∧
      (found "debug").toOption = some debug ∧ (found "timeout_ms").toOption = some timeout ∧
      (found "log").toOption = some filter ∧ settings = ofTexts proxy debug timeout filter := by
  rw [ofFound, textOf, textOf, textOf, textOf]
  cases found "proxy" <;> cases found "debug" <;> cases found "timeout_ms" <;>
    cases found "log" <;>
    simp [bind, Except.bind, pure, Except.pure, Except.toOption, eq_comm]

-- The settings are read one by one; what is told about each of them must be readable.
theorem settings_iff (documented : c.Documented) (settings : Settings)
    (distinct : (own env).Distinct) : ofEnvironmentBy c env = .ok settings ↔
      ¬ Breaks c env ∧ ∃ proxy debug timeout filter,
        told (own env).texts "proxy" = some proxy ∧ told (own env).texts "debug" = some debug ∧
        told (own env).texts "timeout_ms" = some timeout ∧
        told (own env).texts "log" = some filter ∧
        settings = ofTexts proxy debug timeout filter := by
  rw [breaks_iff, ← own_source env distinct]
  cases loaded : c.load (source env) with
  | none => simp [ofEnvironmentBy, loaded]
  | some state =>
      have read (key : String) (member : key ∈ keys) :=
        c.load_reads documented _ state loaded key (keys_plain key member)
      rw [← read "proxy" (by decide), ← read "debug" (by decide), ← read "timeout_ms" (by decide),
        ← read "log" (by decide), ← found_iff, environment_loaded c env state loaded]
      cases ofFound (c.read state) <;> simp

-- If one of them is not, none is.
theorem unread_problem (documented : c.Documented) (distinct : (own env).Distinct)
    (whole : ¬ Breaks c env) (key : String) (member : key ∈ keys)
    (refused : told (own env).texts key = .none) :
    ∃ problem, ofEnvironmentBy c env = .error (.settings problem) := by
  rcases environment_cases c env with broken | ⟨settings, read⟩ | unread
  · exact absurd broken whole
  · obtain ⟨_, _, _, _, _, first, second, third, fourth, _⟩ :=
      (settings_iff c env documented settings distinct).mp read
    simp only [keys, List.mem_cons, List.not_mem_nil, or_false] at member
    rcases member with rfl | rfl | rfl | rfl
    · cases first.symm.trans refused
    · cases second.symm.trans refused
    · cases third.symm.trans refused
    · cases fourth.symm.trans refused
  · exact unread

-- A variable for settings whose name has the mark of an index.
def Indexed (entry : Bytes × Bytes) : Prop := ∃ name text, Sets entry name text ∧ '[' ∈ name.toList

instance (entry : Bytes × Bytes) : Decidable (Indexed entry) :=
  decidable_of_iff ((setting? entry).any (fun given => '[' ∈ given.1.toList) = true) <| by
    simp only [Option.any_eq_true, Prod.exists, setting_iff, decide_eq_true_eq, Indexed]

theorem unmarked_whole (documented : c.Documented) (distinct : (own env).Distinct)
    (unmarked : ∀ entry ∈ (own env).texts, '[' ∉ entry.1.toList) : ¬ Breaks c env := by
  obtain ⟨state, loaded⟩ := c.load_steady documented (own env).texts unmarked
  rw [breaks_iff, own_source env distinct, loaded]
  exact Option.some_ne_none _

theorem unindexed_whole (documented : c.Documented) (distinct : (own env).Distinct)
    (unindexed : ∀ entry ∈ env, ¬ Indexed entry) : ¬ Breaks c env := by
  refine unmarked_whole c env documented distinct ?_
  rintro ⟨name, text⟩ member marked
  rw [own_given, List.mem_filterMap] at member
  obtain ⟨entry, inside, given⟩ := member
  exact unindexed entry inside ⟨name, text, (setting_iff entry name text).mp given, marked⟩

end

end Settings

namespace Startup

open Settings

variable (c : Configuration) (program : Bytes) (env : Environment)

theorem run_read (settings : Settings) (read : ofEnvironmentBy c env = .ok settings) :
    ∃ startup, runBy c program env = some startup ∧
      startup.context = Context.ofSettings settings ∧
      startup.reporter.filter.isSome = settings.debug := by
  refine ⟨_, by rw [runBy, settings?, read]; rfl, rfl, ?_⟩
  rcases settings with ⟨proxy, _ | _, budget, filter⟩ <;> rfl

-- Settings that cannot be read leave interception inactive.
theorem run_unread (problem : SettingsProblem)
    (unread : ofEnvironmentBy c env = .error (.settings problem)) :
    ∃ startup, runBy c program env = some startup ∧ startup.context = .inactive ∧
      startup.reporter.filter.isSome = debugRequested env := by
  refine ⟨_, by rw [runBy, settings?, unread]; rfl, rfl, ?_⟩
  cases debugRequested env <;> rfl

theorem run_broken (broken : Breaks c env) : runBy c program env = .none := by
  rw [Breaks] at broken
  rw [runBy, settings?, broken]
  rfl

end Startup

end ProxyTunnel
