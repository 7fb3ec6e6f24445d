import Mathlib.Algebra.Ring.Nat
import ProxyTunnel.Intercept.Startup
import ProxyTunnel.Launch.Injection
import ProxyTunnel.Proofs.Settings.Variables
import ProxyTunnel.Proofs.Text.Numeral
import ProxyTunnel.Proofs.Text.Utf8

/-!
What a launcher tells a child through its variables is what the child reads from them, wherever they
stand among variables that are none of its own.
-/

set_option autoImplicit false

namespace ProxyTunnel

namespace Settings

open Environment Layers

-- No variable looks like a setting.
def Foreign (env : Environment) : Prop := ∀ entry ∈ env, ¬ Utf8.encode nameHead <+: entry.1

theorem own_foreign (env : Environment) (foreign : Foreign env) : own env = [] := by
  rw [own, only, List.filter_eq_nil_iff]
  intro entry member mine
  exact foreign entry (List.mem_filter.mp member).1 (own_starts entry.1 mine)

end Settings

namespace Injection

open Environment Layers

-- No limit, or a whole number of milliseconds that the variable can hold.
def Timed (i : Injection) : Prop :=
  i.budget = none ∨ ∃ n, 1 ≤ n ∧ n ≤ 2 ^ 64 - 1 ∧ i.budget = some (.ofMillis n)

-- The variables for settings among those of the child.
def handed (i : Injection) : List (String × String) :=
  (Settings.proxyVariable, i.proxy) :: ((if i.debug then [(Settings.debugVariable, "1")] else []) ++
    (i.budget.map fun b => (Settings.timeoutVariable, toString b.millis)).toList)

theorem child_own (i : Injection) (library : Bytes) (existing : Option String) :
    (i.childVariables library existing).filter (fun entry => Settings.isOwn entry.1) =
      i.handed := by
  have linker : Settings.isOwn linkerVariable = false := by decide
  have proxy : Settings.isOwn Settings.proxyVariable = true := by decide
  have debug : Settings.isOwn Settings.debugVariable = true := by decide
  have timeout : Settings.isOwn Settings.timeoutVariable = true := by decide
  rcases i with ⟨url, _ | _, _ | budget⟩ <;>
    simp [childVariables, handed, linker, proxy, debug, timeout]

-- Each variable names the setting that it is for, and no other.
theorem naming_plain (name setting key text : String)
    (given : settingOf? name = some setting ∧ Path.readLeniently setting = ⟨setting, []⟩ ∧
      Text.lower setting = setting) :
    namingOf? key (name, text) = if setting = key then some ⟨[], text⟩ else none := by
  obtain ⟨given, path, kept⟩ := given
  simp only [namingOf?, given, path, kept]

-- What is told about the settings, in any order of the variables.
theorem handed_told (i : Injection) (source : List (String × String))
    (order : source.Perm i.handed) :
    Settings.told source "proxy" = some (some i.proxy) ∧
      Settings.told source "debug" = some (if i.debug then some "1" else none) ∧
      Settings.told source "timeout_ms" = some (i.budget.map fun b => toString b.millis) ∧
      Settings.told source "log" = some none := by
  have proxy (key text : String) :=
    naming_plain Settings.proxyVariable "proxy" key text (by decide)
  have debug (key text : String) :=
    naming_plain Settings.debugVariable "debug" key text (by decide)
  have timeout (key text : String) :=
    naming_plain Settings.timeoutVariable "timeout_ms" key text (by decide)
  have named (key : String) (text : Option String)
      (once : namings key i.handed = (text.map (Naming.mk [])).toList) :
      Settings.told source key = some text :=
    Settings.told_once source key text (once ▸ order.filterMap _)
  refine ⟨named _ _ ?_, named _ _ ?_, named _ _ ?_, named _ _ ?_⟩ <;>
    rcases i with ⟨url, _ | _, _ | budget⟩ <;>
    simp [namings, handed, proxy, debug, timeout]

theorem handed_unmarked (i : Injection) : ∀ entry ∈ i.handed, '[' ∉ entry.1.toList := by
  have proxy : '[' ∉ Settings.proxyVariable.toList := by decide
  have debug : '[' ∉ Settings.debugVariable.toList := by decide
  have timeout : '[' ∉ Settings.timeoutVariable.toList := by decide
  rcases i with ⟨url, _ | _, _ | budget⟩ <;> simp [handed, proxy, debug, timeout]

theorem handed_read (i : Injection) (timed : i.Timed) :
    Settings.ofTexts (some i.proxy) (if i.debug then some "1" else none)
      (i.budget.map fun b => toString b.millis) none = ⟨some i.proxy, i.debug, i.budget, none⟩ := by
  have debug : decide ((if i.debug then some "1" else none) = some "1") = i.debug := by
    cases i.debug <;> rfl
  have budget : (i.budget.map fun b => toString b.millis).bind Settings.budgetOf = i.budget := by
    rcases timed with unlimited | ⟨n, positive, bounded, limited⟩
    · rw [unlimited]
      rfl
    · rw [limited, Option.map_some, Option.bind_some, Duration.millis_ofMillis]
      exact Settings.budget_numeral n positive bounded
  rw [Settings.ofTexts, debug, budget]
  rfl

theorem handed_distinct (i : Injection) : (spelled i.handed).Distinct := by
  have apart : ([Settings.proxyVariable, Settings.debugVariable, Settings.timeoutVariable].map
      Utf8.encode).Nodup := by decide
  refine List.Nodup.sublist ?_ apart
  rcases i with ⟨url, _ | _, _ | budget⟩ <;> simp [spelled, handed]

variable (i : Injection) (library : Bytes) (existing : Option String) (others env : Environment)

theorem handed_own (foreign : Settings.Foreign others)
    (order : env.Perm (spelled (i.childVariables library existing) ++ others)) :
    (Settings.own env).Perm (spelled i.handed) := by
  have kept := Settings.own_perm _ _ order
  rwa [Settings.own_append, Settings.own_foreign others foreign, List.append_nil,
    Settings.own_spelled, child_own] at kept

theorem settings_handed (timed : i.Timed) (foreign : Settings.Foreign others)
    (order : env.Perm (spelled (i.childVariables library existing) ++ others)) :
    ∃ settings, Settings.ofEnvironment env = .ok settings ∧
      settings = ⟨some i.proxy, i.debug, i.budget, none⟩ ∧
      (Context.ofSettings settings).isActive = i.isActive ∧
      (Context.ofSettings settings).target = Target.parse? i.proxy ∧
      (Context.ofSettings settings).budget = i.budget := by
  have kept := handed_own i library existing others env foreign order
  have distinct : (Settings.own env).Distinct :=
    (kept.map Prod.fst).nodup_iff.mpr (handed_distinct i)
  have texts : (Settings.own env).texts.Perm i.handed :=
    (kept.filterMap _).trans (.of_eq (spelled_texts i.handed))
  obtain ⟨proxy, debug, timeout, filter⟩ := handed_told i _ texts
  have whole : ¬ Settings.Breaks .layered env :=
    Settings.unmarked_whole _ env Configuration.layered_documented distinct fun entry member =>
      handed_unmarked i entry (texts.mem_iff.mp member)
  refine ⟨_, ?_, rfl, rfl, rfl, rfl⟩
  exact (Settings.settings_iff _ env Configuration.layered_documented _ distinct).mpr
    ⟨whole, _, _, _, _, proxy, debug, timeout, filter, (handed_read i timed).symm⟩

-- Variables of other programs may stand among those of the launcher.
theorem settings_handed_among : ∃ settings,
    Settings.ofEnvironment
      (spelled [("SSHTUNNEL_TIMEOUT_MS", "1500"), ("PATH", "/bin"),
        ("SSHTUNNEL_PROXY", "http://localhost:8080"), ("LD_PRELOAD", "/lib/x.so")]) = .ok settings ∧
      settings = ⟨some "http://localhost:8080", false, some (.ofMillis 1500), none⟩ ∧
      (Context.ofSettings settings).isActive = true := by
  obtain ⟨settings, read, same, active, _⟩ :=
    settings_handed ⟨"http://localhost:8080", false, some (.ofMillis 1500)⟩
      (Utf8.encode "/lib/x.so") none (spelled [("PATH", "/bin")])
      (spelled [("SSHTUNNEL_TIMEOUT_MS", "1500"), ("PATH", "/bin"),
        ("SSHTUNNEL_PROXY", "http://localhost:8080"), ("LD_PRELOAD", "/lib/x.so")])
      (.inr ⟨1500, by decide, by decide, rfl⟩) (by unfold Settings.Foreign; decide +kernel)
      (by decide +kernel)
  exact ⟨settings, read, same, active.trans (by decide +kernel)⟩

end Injection

end ProxyTunnel
