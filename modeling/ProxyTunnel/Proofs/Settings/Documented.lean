import ProxyTunnel.Proofs.Settings.Tables

/-!
What is known of the library that settings are read with. Its names are in any case, and lead by
steps into settings; on an index it may panic. Keeping settings in a table meets all of it.
-/

set_option autoImplicit false

namespace ProxyTunnel

namespace Configuration

structure Documented (c : Configuration) : Prop where
  -- Before a variable is taken in, there are no settings.
  blank : ∀ key, Path.Plain key → c.read c.start key = .ok none
  -- What a variable does not name stays as it is.
  apart : ∀ before after name text, c.take before name text = some after →
    ∀ key, Path.Plain key → (∀ steps, ¬ Layers.Names name key steps) →
      c.read after key = c.read before key
  -- Under the whole name of a setting, the text of the variable is the setting.
  whole : ∀ before after name text, c.take before name text = some after →
    ∀ key, Path.Plain key → Layers.Names name key [] → c.read after key = .ok (some text)
  -- With steps into it, a setting becomes a table or an array, whatever it was.
  stepped : ∀ before after name text, c.take before name text = some after →
    ∀ key, Path.Plain key → ∀ steps, Layers.Names name key steps → steps ≠ [] →
      ∃ shape, c.read after key = .error shape
  -- Without an index there is nothing to panic on.
  steady : ∀ before name text, '[' ∉ name.toList → ∃ after, c.take before name text = some after

variable (c : Configuration)

theorem load_more (source : List (String × String)) (name text : String) :
    c.load (source ++ [(name, text)]) =
      (c.load source).bind fun state => c.take state name text := by
  simp only [load, List.foldlM_append, List.foldlM_cons, List.foldlM_nil, bind_pure,
    Option.bind_eq_bind]

theorem load_steady (documented : c.Documented) (source : List (String × String))
    (unmarked : ∀ entry ∈ source, '[' ∉ entry.1.toList) : ∃ state, c.load source = some state := by
  induction source using List.reverseRecOn with
  | nil => exact ⟨c.start, rfl⟩
  | append_singleton source entry ih =>
      obtain ⟨before, unmarked⟩ := List.forall_mem_append.mp unmarked
      obtain ⟨state, loaded⟩ := ih before
      rw [load_more, loaded, Option.bind_some]
      exact documented.steady state entry.1 entry.2 (unmarked entry List.mem_cons_self)

-- By induction on the variables from the last one on: if it names the setting it decides it, and
-- else the ones before it do.
theorem load_reads (documented : c.Documented) (source : List (String × String)) (state : c.State)
    (loaded : c.load source = some state) (key : String) (plain : Path.Plain key) :
    (c.read state key).toOption = Settings.told source key := by
  induction source using List.reverseRecOn generalizing state with
  | nil =>
      cases loaded
      rw [documented.blank key plain]
      rfl
  | append_singleton source entry ih =>
      rcases entry with ⟨name, text⟩
      rw [load_more, Option.bind_eq_some_iff] at loaded
      obtain ⟨before, loaded, taken⟩ := loaded
      rw [Settings.told, Layers.namings, List.filterMap_append]
      cases given : Layers.namingOf? key (name, text) with
      | none =>
          have unnamed (steps : List PathStep) : ¬ Layers.Names name key steps := by
            intro names
            have named := (Layers.naming_iff key name text ⟨steps, text⟩ plain).mpr ⟨names, rfl⟩
            cases named.symm.trans given
          rw [documented.apart before state name text taken key plain unnamed,
            List.filterMap_cons_none given, List.filterMap_nil, List.append_nil]
          exact ih before loaded
      | some naming =>
          obtain ⟨names, same⟩ := (Layers.naming_iff key name text naming plain).mp given
          rw [List.filterMap_cons_some given, List.filterMap_nil, List.getLast?_concat]
          rcases naming with ⟨_ | ⟨step, steps⟩, told⟩
          · cases same
            rw [documented.whole before state name _ taken key plain names]
            rfl
          · obtain ⟨shape, refused⟩ := documented.stepped before state name text taken key plain _
              names (List.cons_ne_nil _ _)
            rw [refused, Layers.reading]
            rfl

end Configuration

namespace Path

-- Without an index, every place can be.
theorem place_unindexed (incoming : Value) (steps : List PathStep) (old : Option Value)
    (unindexed : ∀ n, .index n ∉ steps) : ∃ value, place incoming steps old = some value := by
  induction steps generalizing old with
  | nil => exact ⟨_, rfl⟩
  | cons step steps ih =>
      cases step with
      | index n => exact absurd List.mem_cons_self (unindexed n)
      | name name =>
          obtain ⟨value, placed⟩ := ih ((Value.asTable old).get? (Text.lower name)) fun n member =>
            unindexed n (List.mem_cons_of_mem _ member)
          exact ⟨_, by rw [place, placed, Option.map_some]⟩

-- What a step leads into is a table or an array.
theorem place_shape (incoming value : Value) (step : PathStep) (steps : List PathStep)
    (old : Option Value) (placed : place incoming (step :: steps) old = some value) :
    ∃ shape, value.asText = .error shape := by
  cases step with
  | name name =>
      rw [place, Option.map_eq_some_iff] at placed
      obtain ⟨_, _, rfl⟩ := placed
      exact ⟨"map", rfl⟩
  | index n =>
      rw [place.eq_def] at placed
      cases found : Value.placeOf? (Value.asArray old).1 n with
      | none => simp [found] at placed
      | some place' =>
          simp only [found] at placed
          obtain ⟨_, _, rfl⟩ := Option.map_eq_some_iff.mp placed
          exact ⟨"sequence", rfl⟩

theorem spells_unindexed (steps : List PathStep) (rest : List Char) (spells : Spells steps rest)
    (unmarked : '[' ∉ rest) : ∀ n, .index n ∉ steps := by
  induction spells with
  | done => simp
  | name cs rest steps _ _ _ ih =>
      intro n member
      rcases List.mem_cons.mp member with clash | inside
      · cases clash
      · refine ih (fun marked => unmarked ?_) n inside
        exact List.mem_cons_of_mem _ (List.mem_append_right _ marked)
  | index n cs rest steps _ _ ih => exact absurd List.mem_cons_self unmarked

end Path

namespace Layers

-- A variable puts a value where its name says.
theorem enter_puts (table entered : Table) (name text setting : String)
    (given : settingOf? name = some setting) (taken : enter table name text = some entered) :
    ∃ value, Path.place (.text text) (Path.readLeniently setting).steps
        (table.get? (Text.lower (Path.readLeniently setting).root)) = some value ∧
      entered = table.put (Text.lower (Path.readLeniently setting).root) value := by
  rw [enter, given] at taken
  obtain ⟨value, placed, same⟩ := Option.map_eq_some_iff.mp taken
  exact ⟨value, placed, same.symm⟩

theorem enter_apart (table entered : Table) (name text key : String)
    (taken : enter table name text = some entered) (unnamed : namingOf? key (name, text) = none) :
    entered.read key = table.read key := by
  cases given : settingOf? name with
  | none =>
      rw [enter, given] at taken
      exact congrArg (Table.read · key) (Option.some.inj taken).symm
  | some setting =>
      obtain ⟨value, _, rfl⟩ := enter_puts table entered name text setting given taken
      simp only [namingOf?, given, ite_eq_right_iff, reduceCtorEq, imp_false] at unnamed
      rw [Table.read, Table.read, Table.get_put_other table _ key value (Ne.symm unnamed)]

theorem enter_named (table entered : Table) (name text key : String) (naming : Naming)
    (taken : enter table name text = some entered)
    (named : namingOf? key (name, text) = some naming) :
    ∃ value, Path.place (.text text) naming.steps (table.get? key) = some value ∧
      entered.read key = value.asText := by
  cases given : settingOf? name with
  | none => simp [namingOf?, given] at named
  | some setting =>
      obtain ⟨value, placed, rfl⟩ := enter_puts table entered name text setting given taken
      simp only [namingOf?, given, Option.ite_none_right_eq_some, Option.some.injEq] at named
      obtain ⟨rfl, rfl⟩ := named
      exact ⟨value, placed, by rw [Table.read, Table.get?_put, Option.getD_some]⟩

theorem enter_unmarked (table : Table) (name text : String) (unmarked : '[' ∉ name.toList) :
    ∃ entered, enter table name text = some entered := by
  rw [enter]
  cases given : settingOf? name with
  | none => exact ⟨table, rfl⟩
  | some setting =>
      have marks : '[' ∉ setting.toList := by
        intro member
        refine Text.lower_unmarked name '[' (.inr rfl) unmarked ?_
        rw [(setting_iff name setting).mp given, String.toList_append]
        exact List.mem_append_right _ member
      have unindexed : ∀ n, .index n ∉ (Path.readLeniently setting).steps := by
        cases read : Path.read setting with
        | error problem => simp [Path.readLeniently, read]
        | ok path =>
            obtain ⟨rest, whole, _, _, spells⟩ := (Path.path_iff setting path).mp read
            rw [Path.readLeniently, read]
            refine Path.spells_unindexed path.steps rest spells fun member => marks ?_
            rw [whole]
            exact List.mem_append_right _ member
      obtain ⟨value, placed⟩ := Path.place_unindexed (.text text) _
        (table.get? (Text.lower (Path.readLeniently setting).root)) unindexed
      exact ⟨_, by simp only [Path.set, placed, Option.map_some]; rfl⟩

end Layers

namespace Configuration

theorem layered_documented : layered.Documented where
  blank key plain := rfl
  apart before after name text taken key plain unnamed := by
    rw [layered_take] at taken
    refine Layers.enter_apart before after name text key taken ?_
    rw [Option.eq_none_iff_forall_ne_some]
    exact fun naming named =>
      unnamed _ ((Layers.naming_iff key name text naming plain).mp named).1
  whole before after name text taken key plain names := by
    rw [layered_take] at taken
    obtain ⟨value, placed, held⟩ := Layers.enter_named before after name text key ⟨[], text⟩ taken
      ((Layers.naming_iff key name text _ plain).mpr ⟨names, rfl⟩)
    cases placed
    exact held
  stepped before after name text taken key plain steps names stepped := by
    rw [layered_take] at taken
    obtain ⟨value, placed, held⟩ := Layers.enter_named before after name text key ⟨steps, text⟩
      taken ((Layers.naming_iff key name text _ plain).mpr ⟨names, rfl⟩)
    obtain ⟨step, steps, rfl⟩ := List.exists_cons_of_ne_nil stepped
    obtain ⟨shape, refused⟩ := Path.place_shape (.text text) value step steps _ placed
    exact ⟨shape, held.trans refused⟩
  steady before name text unmarked := by
    rw [layered_take]
    exact Layers.enter_unmarked before name text unmarked

end Configuration

end ProxyTunnel
