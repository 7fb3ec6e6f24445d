import ProxyTunnel.Proofs.Settings.Steps
import ProxyTunnel.Settings

/-!
How variables name settings. A setting may be named in many ways, in any case and with steps into
it; only the last one counts, and one with steps makes it unreadable.
-/

set_option autoImplicit false

namespace ProxyTunnel

namespace Layers

-- The name of a variable leads to a setting by steps; it may be in any case.
def Names (name key : String) (steps : List PathStep) : Prop :=
  ∃ rest, Text.lower name = head ++ key ++ String.ofList rest ∧ Path.Spells steps rest

theorem names_whole (name key : String) : Names name key [] ↔ Text.lower name = head ++ key := by
  constructor
  · rintro ⟨rest, whole, spells⟩
    cases spells
    rwa [String.ofList_nil, String.append_empty] at whole
  · intro whole
    exact ⟨[], by rwa [String.ofList_nil, String.append_empty], .done⟩

theorem setting_iff (name setting : String) :
    settingOf? name = some setting ↔ Text.lower name = head ++ setting := by
  rw [settingOf?, Option.ite_none_right_eq_some, List.isPrefixOf_iff_prefix, Option.some.injEq,
    ← String.toList_inj, ← String.toList_inj, String.toList_ofList, String.toList_append]
  constructor
  · rintro ⟨⟨rest, split⟩, same⟩
    rw [← same, ← split, List.drop_left]
  · intro whole
    rw [whole, List.drop_left]
    exact ⟨List.prefix_append _ _, rfl⟩

theorem setting_low (name setting : String) (given : settingOf? name = some setting) :
    Text.lower setting = setting := by
  have whole := (setting_iff name setting).mp given
  have kept := (Text.lower_kept_iff _).mp (Text.lower_twice name)
  rw [whole, String.toList_append] at kept
  exact (Text.lower_kept_iff setting).mpr fun c member => kept c (List.mem_append_right _ member)

-- One way to name a setting: the steps into it, and the text for that place.
structure Naming where
  steps : List PathStep
  text : String
deriving DecidableEq, Repr

def namingOf? (key : String) (entry : String × String) : Option Naming :=
  match settingOf? entry.1 with
  | none => none
  | some setting =>
      if Text.lower (Path.readLeniently setting).root = key then
        some ⟨(Path.readLeniently setting).steps, entry.2⟩
      else none

theorem naming_iff (key name text : String) (naming : Naming) (plain : Path.Plain key) :
    namingOf? key (name, text) = some naming ↔
      Names name key naming.steps ∧ naming.text = text := by
  have split (setting : String) (given : settingOf? name = some setting) :
      Names name key naming.steps ↔ Text.lower (Path.readLeniently setting).root = key ∧
        (Path.readLeniently setting).steps = naming.steps := by
    rw [Path.setting_steps_iff key setting plain (setting_low name setting given)]
    refine exists_congr fun rest => and_congr_left' ?_
    rw [(setting_iff name setting).mp given, String.append_assoc, String.append_right_inj]
  cases given : settingOf? name with
  | none =>
      have unnamed : ¬ Names name key naming.steps := by
        rintro ⟨rest, whole, _⟩
        rw [String.append_assoc] at whole
        cases ((setting_iff name _).mpr whole).symm.trans given
      simp [namingOf?, given, unnamed]
  | some setting =>
      rcases naming with ⟨steps, told⟩
      rw [split setting given, @eq_comm _ told]
      simp only [namingOf?, given, Option.ite_none_right_eq_some, Option.some.injEq,
        Naming.mk.injEq, and_assoc]

-- How variables name a setting, in order.
def namings (key : String) (source : List (String × String)) : List Naming :=
  source.filterMap (namingOf? key)

-- What a setting reads as after it was last named so; with steps into it, it cannot be read.
def reading : Option Naming → Option (Option String)
  | none => some none
  | some ⟨[], text⟩ => some (some text)
  | some ⟨_ :: _, _⟩ => none

end Layers

namespace Settings

open Layers

-- What variables tell about a setting, if it can be read.
def told (source : List (String × String)) (key : String) : Option (Option String) :=
  reading (namings key source).getLast?

theorem told_iff (source : List (String × String)) (key : String) (text : Option String) :
    told source key = some text ↔ (namings key source).getLast? = text.map (Naming.mk []) := by
  rw [told]
  cases (namings key source).getLast? with
  | none => cases text <;> simp [reading]
  | some naming => rcases naming with ⟨_ | ⟨_, steps⟩, given⟩ <;> cases text <;> simp [reading]

-- A setting that is named at most once, and without steps.
theorem told_once (source : List (String × String)) (key : String) (text : Option String)
    (once : (namings key source).Perm (text.map (Naming.mk [])).toList) :
    told source key = some text := by
  rw [told_iff]
  cases text with
  | none => rw [once.eq_nil]; rfl
  | some text => rw [List.perm_singleton.mp once]; rfl

theorem told_plain (source : List (String × String)) (key : String)
    (plain : ∀ naming ∈ namings key source, naming.steps = []) :
    told source key = some ((namings key source).getLast?.map (·.text)) := by
  rw [told_iff]
  cases last : (namings key source).getLast? with
  | none => rfl
  | some naming =>
      rcases naming with ⟨steps, text⟩
      cases plain _ (List.mem_of_getLast? last)
      rfl

theorem told_stepped (source : List (String × String)) (key : String) (naming : Naming)
    (last : (namings key source).getLast? = some naming) (stepped : naming.steps ≠ []) :
    told source key = .none := by
  rcases naming with ⟨_ | ⟨_, steps⟩, text⟩
  · exact absurd rfl stepped
  · rw [told, last, reading]

-- The names under which settings are read.
def keys : List String := ["proxy", "debug", "timeout_ms", "log"]

theorem keys_plain : ∀ key ∈ keys, Path.Plain key := by
  have all : ∀ key ∈ keys, key.toList ≠ [] ∧ key.toList.all Path.isNameChar = true ∧
      Text.lower key = key := by decide
  intro key member
  obtain ⟨filled, plain, low⟩ := all key member
  exact ⟨filled, List.all_eq_true.mp plain, low⟩

end Settings

end ProxyTunnel
