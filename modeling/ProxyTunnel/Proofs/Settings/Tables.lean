import ProxyTunnel.Proofs.Settings.Naming

/-!
Tables of settings through what they hold under each name. A table that variables have filled reads
the same after it has been laid over an empty one, so variables are read as layers are.
-/

set_option autoImplicit false

namespace ProxyTunnel

namespace Table

def names : Table → List String
  | nil => []
  | cons name _ rest => name :: names rest

theorem get_put_other (t : Table) (name other : String) (value : Value) (apart : other ≠ name) :
    (t.put name value).get? other = t.get? other := by
  fun_induction put t name value with
  | case1 name value => simp [get?, apart.symm]
  | case2 n v rest value => simp [get?, apart.symm]
  | case3 n v rest name value differ ih => simp [get?, ih apart]

theorem names_put (t : Table) (name : String) (value : Value) :
    (t.put name value).names = if name ∈ t.names then t.names else t.names ++ [name] := by
  fun_induction put t name value with
  | case1 name value => simp [names]
  | case2 n v rest value => simp [names]
  | case3 n v rest name value differ ih =>
      rw [names, names, ih]
      by_cases held : name ∈ rest.names
      · rw [if_pos held, if_pos (List.mem_cons_of_mem _ held)]
      · rw [if_neg held, if_neg (by simp [Ne.symm differ, held]), List.cons_append]

theorem get_absent (t : Table) (name : String) (absent : name ∉ t.names) : t.get? name = none := by
  fun_induction get? t name with
  | case1 name => rfl
  | case2 v rest name => simp [names] at absent
  | case3 n v rest name differ ih => exact ih (fun held => absent (by simp [names, held]))

-- Merging into a table never makes anything else of it.
theorem merge_table : ∀ entries old : Table,
    ∃ merged, entries.mergeInto (.table old) = .table merged
  | .nil, old => ⟨old, by rw [mergeInto]⟩
  | .cons name value rest, old => by
      rw [mergeInto]
      exact merge_table rest _

-- A table of settings: its names are distinct, and each is the path to what is under it.
structure Flat (t : Table) : Prop where
  distinct : t.names.Nodup
  plain : ∀ name ∈ t.names, Path.readLeniently name = ⟨name, []⟩ ∧ Text.lower name = name

theorem flat_put (t : Table) (name : String) (value : Value) (flat : t.Flat)
    (plain : Path.readLeniently name = ⟨name, []⟩ ∧ Text.lower name = name) :
    (t.put name value).Flat := by
  by_cases held : name ∈ t.names
  · have same : (t.put name value).names = t.names := by rw [names_put, if_pos held]
    exact ⟨same ▸ flat.distinct, same ▸ flat.plain⟩
  · have more : (t.put name value).names = t.names ++ [name] := by rw [names_put, if_neg held]
    refine ⟨?_, ?_⟩
    · rw [more, List.nodup_append]
      exact ⟨flat.distinct, by simp, by
        rintro a inside b single rfl
        exact held (List.mem_singleton.mp single ▸ inside)⟩
    · rw [more]
      intro other member
      rcases List.mem_append.mp member with inside | single
      · exact flat.plain other inside
      · exact List.mem_singleton.mp single ▸ plain

end Table

namespace Value

theorem assign_text (value : Value) : (assign none value).asText = value.asText := by
  cases value with
  | table entries =>
      obtain ⟨merged, made⟩ := Table.merge_table entries .nil
      rw [assign, Option.getD_none, made]
      rfl
  | null => rw [assign]
  | flag b => rw [assign]
  | integer n => rw [assign]
  | decimal digits places => rw [assign]
  | text s => rw [assign]
  | array => rw [assign]

end Value

namespace Path

-- The first name of a path is a path of its own, also in lower case.
theorem root_plain (setting : String) (kept : Text.lower setting = setting) :
    readLeniently (Text.lower (readLeniently setting).root) =
      ⟨Text.lower (readLeniently setting).root, []⟩ := by
  cases given : read setting with
  | error problem =>
      have same : readLeniently setting = ⟨setting, []⟩ := by rw [readLeniently, given]
      rw [same, kept, same]
  | ok path =>
      have same : readLeniently setting = path := by rw [readLeniently, given]
      obtain ⟨_, _, filled, plain, _⟩ := (path_iff setting path).mp given
      have lowered : read (Text.lower path.root) = .ok ⟨Text.lower path.root, []⟩ := by
        refine (path_iff _ _).mpr ⟨[], (List.append_nil _).symm, ?_, ?_, .done⟩
        · simpa [Text.lower] using filled
        · intro c member
          rw [Text.lower, String.toList_ofList] at member
          obtain ⟨d, inside, rfl⟩ := List.mem_map.mp member
          exact name_char_lower d (plain d inside)
      rw [same, readLeniently, lowered]

end Path

namespace Layers

open Table

-- Laid over another table, a flat one leaves alone what it has no name for, and assigns the rest.
theorem get_overlay (base top : Table) (flat : top.Flat) : ∃ table, overlay base top = some table ∧
    ∀ name, table.get? name =
      match top.get? name with
      | none => base.get? name
      | some value => some (Value.assign (base.get? name) value) := by
  fun_induction names top generalizing base with
  | case1 => exact ⟨base, rfl, fun name => rfl⟩
  | case2 n v rest ih =>
      obtain ⟨new, distinct⟩ := List.nodup_cons.mp flat.distinct
      obtain ⟨path, kept⟩ := flat.plain n List.mem_cons_self
      have put : (Path.readLeniently n).set base v =
          some (base.put n (Value.assign (base.get? n) v)) := by
        simp only [Path.set, path, kept, Path.place, Option.map_some]
      obtain ⟨table, laid, held⟩ := ih (base.put n (Value.assign (base.get? n) v))
        ⟨distinct, fun other member => flat.plain other (List.mem_cons_of_mem _ member)⟩
      refine ⟨table, by rw [overlay, put, Option.bind_some, laid], fun name => ?_⟩
      rw [held, Table.get?]
      by_cases same : n = name
      · subst same
        rw [if_pos rfl, get_absent rest n new]
        exact Table.get?_put base n _
      · rw [if_neg same, get_put_other base n name _ (Ne.symm same)]

theorem overlay_read (top : Table) (flat : top.Flat) :
    ∃ table, overlay .nil top = some table ∧ table.read = top.read := by
  obtain ⟨table, laid, held⟩ := get_overlay .nil top flat
  refine ⟨table, laid, funext fun name => ?_⟩
  rw [Table.read, Table.read, held]
  cases top.get? name with
  | none => rfl
  | some value => exact Value.assign_text value

theorem enter_flat (table entered : Table) (name text : String) (flat : table.Flat)
    (taken : enter table name text = some entered) : entered.Flat := by
  rw [enter] at taken
  cases given : settingOf? name with
  | none =>
      rw [given] at taken
      cases taken
      exact flat
  | some setting =>
      simp only [given, Path.set, Option.map_eq_some_iff] at taken
      obtain ⟨value, _, rfl⟩ := taken
      exact flat_put table _ value flat
        ⟨Path.root_plain setting (setting_low name setting given), Text.lower_twice _⟩

theorem source_flat (source : List (String × String)) (table : Table)
    (filled : ofSource source = some table) : table.Flat := by
  have start : Table.nil.Flat := ⟨List.nodup_nil, by simp [Table.names]⟩
  rw [ofSource] at filled
  generalize Table.nil = before at start filled
  induction source generalizing before with
  | nil => exact Option.some.inj filled ▸ start
  | cons entry rest ih =>
      rw [List.foldlM_cons, Option.bind_eq_bind, Option.bind_eq_some_iff] at filled
      obtain ⟨next, taken, filled⟩ := filled
      exact ih next (enter_flat before next entry.1 entry.2 start taken) filled

end Layers

namespace Configuration

theorem layered_take : layered.take = Layers.enter := by dsimp only [layered]

theorem layered_load (source : List (String × String)) :
    layered.load source = Layers.ofSource source := by
  rw [load, layered_take]
  rfl

end Configuration

namespace Settings

-- Variables are read as the only layer that there is.
theorem environment_layers (env : Environment) :
    ofEnvironment env = ofLayers ⟨[], source env, []⟩ := by
  have loaded := Configuration.layered_load (source env)
  rw [ofEnvironment, ofEnvironmentBy, ofLayers, loaded]
  cases filled : Layers.ofSource (source env) with
  | none => simp [Layers.combine, Layers.setAll, Layers.paths, Layers.lastOfEach, filled]
  | some table =>
      obtain ⟨top, laid, same⟩ :=
        Layers.overlay_read table (Layers.source_flat _ table filled)
      have read : Configuration.layered.read table = top.read := same.symm
      simp [Layers.combine, Layers.setAll, Layers.paths, Layers.lastOfEach, filled, laid, read]

end Settings

end ProxyTunnel
