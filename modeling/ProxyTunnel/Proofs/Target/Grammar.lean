import ProxyTunnel.Intercept.Startup
import ProxyTunnel.Proofs.Text.Digits

/-!
The URLs that name a proxy are those of a small grammar: one of two schemes and a port in decimal.
A URL of the grammar names the target at its port, and every other one names none.
-/

set_option autoImplicit false

namespace ProxyTunnel.Target

-- The grammar: what is in front of the port, and the port, with zeros before it or without.
structure Url (url : String) (port : Nat) : Prop where
  spelled : ∃ digits, (url.toList = "http://localhost:".toList ++ digits ∨
    url.toList = "http://127.0.0.1:".toList ++ digits) ∧ Decimal.Counts digits port
  positive : 1 ≤ port
  bounded : port ≤ 65535

-- Of heads that do not start with one another at most one stands in front of a text.
theorem after_iff (heads : List (List Char)) (cs rest : List Char)
    (apart : heads.Pairwise fun a b => ¬ a <+: b ∧ ¬ b <+: a) :
    afterAny? heads cs = some rest ↔ ∃ head ∈ heads, cs = head ++ rest := by
  induction heads with
  | nil => simp [afterAny?]
  | cons head heads ih =>
      obtain ⟨first, others⟩ := List.pairwise_cons.mp apart
      by_cases starts : head <+: cs
      · rw [afterAny?, if_pos (List.isPrefixOf_iff_prefix.mpr starts)]
        constructor
        · intro dropped
          refine ⟨head, List.mem_cons_self, ?_⟩
          rw [← Option.some.inj dropped]
          exact (List.prefix_iff_eq_append.mp starts).symm
        · rintro ⟨other, member, rfl⟩
          rcases List.mem_cons.mp member with rfl | later
          · rw [List.drop_left]
          · obtain ⟨unlike, unlike'⟩ := first other later
            rcases List.prefix_or_prefix_of_prefix starts (List.prefix_append other rest) with
              within | within
            · exact absurd within unlike
            · exact absurd within unlike'
      · rw [afterAny?, if_neg (mt List.isPrefixOf_iff_prefix.mp starts), ih others]
        constructor
        · rintro ⟨other, member, split⟩
          exact ⟨other, List.mem_cons_of_mem _ member, split⟩
        · rintro ⟨other, member, rfl⟩
          rcases List.mem_cons.mp member with rfl | later
          · exact absurd (List.prefix_append other rest) starts
          · exact ⟨other, later, rfl⟩

theorem after_scheme_iff (url : String) (rest : List Char) :
    afterAny? (schemes.map String.toList) url.toList = some rest ↔
      (url.toList = "http://localhost:".toList ++ rest ∨
        url.toList = "http://127.0.0.1:".toList ++ rest) := by
  rw [after_iff _ _ _ (by decide)]
  simp [schemes]

theorem of_port_iff (n : Nat) (t : Target) : ofPort? n = some t ↔ t.port = n := by
  rcases t with ⟨port, positive, bounded⟩
  constructor
  · intro made
    rw [ofPort?] at made
    split at made
    · cases made
      rfl
    · cases made
  · rintro rfl
    exact dif_pos ⟨positive, bounded⟩

theorem parse_iff (url : String) (t : Target) : parse? url = some t ↔ Url url t.port := by
  constructor
  · intro parsed
    rw [parse?, read] at parsed
    cases after : afterAny? (schemes.map String.toList) url.toList with
    | none => simp [after, Except.toOption] at parsed
    | some digits =>
        cases number : Decimal.read? digits with
        | none => simp [after, number, Except.toOption] at parsed
        | some n =>
            cases made : ofPort? n with
            | none => simp [after, number, made, Except.toOption] at parsed
            | some target =>
                simp only [after, number, made, Except.toOption, Option.some.injEq] at parsed
                subst parsed
                have same := (of_port_iff n target).mp made
                exact ⟨⟨digits, (after_scheme_iff url digits).mp after,
                  same ▸ (Decimal.read_iff digits n).mp number⟩, target.port_pos,
                  Nat.le_of_lt_succ target.port_lt⟩
  · rintro ⟨⟨digits, spelled, counts⟩, _, _⟩
    have after := (after_scheme_iff url digits).mpr spelled
    have number := (Decimal.read_iff digits _).mpr counts
    have made := (of_port_iff t.port t).mpr rfl
    simp only [parse?, read, after, number, made, Except.toOption]

-- The target that a URL of the grammar names.
theorem url_names (url : String) (port : Nat) (named : Url url port) :
    ∃ t, parse? url = some t ∧ t.port = port :=
  ⟨⟨port, named.positive, Nat.lt_succ_of_le named.bounded⟩, (parse_iff url _).mpr named, rfl⟩

theorem shown_url (t : Target) : Url ("http://" ++ t.text) t.port where
  spelled := by
    refine ⟨(toString t.port).toList, .inr ?_, (Decimal.written_numeral t.port).toCounts⟩
    have scheme : "http://".toList ++ "127.0.0.1:".toList = "http://127.0.0.1:".toList := by decide
    rw [text, String.toList_append, String.toList_append, ← scheme, List.append_assoc]
  positive := t.port_pos
  bounded := Nat.le_of_lt_succ t.port_lt

theorem urls_parse_exactly :
    (∀ url port, (∃ t, parse? url = some t ∧ t.port = port) ↔ Url url port) ∧
    (∀ t : Target, parse? ("http://" ++ t.text) = some t) ∧
    ∀ settings, (Context.ofSettings settings).isActive = true ↔
      ∃ url port, settings.proxy = some url ∧ Url url port := by
  refine ⟨fun url port => ⟨?_, url_names url port⟩, fun t => (parse_iff _ t).mpr (shown_url t), ?_⟩
  · rintro ⟨t, parsed, rfl⟩
    exact (parse_iff url t).mp parsed
  · intro settings
    have target : (Context.ofSettings settings).isActive =
        (settings.proxy.bind parse?).isSome := rfl
    rw [target, Option.isSome_iff_exists]
    constructor
    · rintro ⟨t, found⟩
      obtain ⟨url, given, parsed⟩ := Option.bind_eq_some_iff.mp found
      exact ⟨url, t.port, given, (parse_iff url t).mp parsed⟩
    · rintro ⟨url, port, given, named⟩
      obtain ⟨t, parsed, _⟩ := url_names url port named
      exact ⟨t, Option.bind_eq_some_iff.mpr ⟨url, given, parsed⟩⟩

end ProxyTunnel.Target
