import Mathlib.Data.List.Infix
import ProxyTunnel.Proofs.Response.Tokenizer

/-!
Streams that are cut short. What is stored of a text grows with the text, and nothing is said of a
line before it is complete, so a head that was cut short has only headers that the whole one has.
-/

set_option autoImplicit false

namespace ProxyTunnel.HeadText

-- What is stored of a text is stored of a longer one, or it is all of the text.
theorem stores_grow (s s' p p' : Bytes) (ending ending' t t' : Termination)
    (short : Stores s ending p t) (whole : Stores s' ending' p' t') (part : s <+: s') :
    p = p' ∨ p = s ∧ s <+: p' := by
  rcases short with ⟨within, stop, before⟩ | ⟨quiet, rfl, _⟩
  · have inside := within.trans part
    rcases whole with ⟨within', stop', before'⟩ | ⟨quiet', _, _⟩
    · by_contra other
      have apart : p ≠ p' := fun same => other (.inl same)
      rcases List.prefix_or_prefix_of_prefix inside within' with grows | shrinks
      · rw [before' p grows apart] at stop
        cases stop
      · rw [before p' shrinks apart.symm] at stop'
        cases stop'
    · rw [quiet' p inside] at stop
      cases stop
  · refine .inr ⟨rfl, ?_⟩
    rcases whole with ⟨within', stop', _⟩ | ⟨_, rfl, _⟩
    · rcases List.prefix_or_prefix_of_prefix part within' with grows | shrinks
      · exact grows
      · rw [quiet p' shrinks] at stop'
        cases stop'
    · exact part

theorem delivered_part (part more : List ReadOutcome) :
    delivered part <+: delivered (part ++ more) := by
  refine List.IsPrefix.filterMap _ ?_
  rw [List.takeWhile_append]
  split
  · exact (List.takeWhile_prefix _).trans (List.prefix_append _ _)
  · exact List.prefix_refl _

theorem delivered_cut (part cut : List ReadOutcome) (halts : ∀ o ∈ cut.head?, passes o = false) :
    delivered (part ++ cut) = delivered part := by
  have nothing : cut.takeWhile passes = [] := by
    cases cut with
    | nil => rfl
    | cons o rest => rw [List.takeWhile_cons_of_neg (by simp [halts o rfl])]
  rw [delivered, delivered, List.takeWhile_append, nothing, List.append_nil]
  split
  · rename_i all
    rw [(List.takeWhile_prefix _).eq_of_length all]
  · rfl

theorem delivered_silent (part : List ReadOutcome) (o : ReadOutcome) (silent : o.byte? = none) :
    delivered (part ++ [o]) = delivered part := by
  rw [delivered, delivered, List.takeWhile_append]
  split
  · rename_i all
    rw [(List.takeWhile_prefix _).eq_of_length all, List.filterMap_append]
    cases goes : passes o <;> simp [goes, silent]
  · rfl

theorem delivered_bytes (s : Bytes) : delivered (s.map .byte) = s := by
  have passing : ∀ o ∈ s.map ReadOutcome.byte, passes o = true := by
    intro o member
    obtain ⟨b, _, rfl⟩ := List.mem_map.mp member
    rfl
  have all := delivered_append (s.map .byte) [] passing
  rw [List.append_nil, List.filterMap_map] at all
  rw [all]
  exact (List.append_nil _).trans List.filterMap_some

theorem fields_prefix (p s : Bytes) (part : p <+: s) : fields p <+: fields s := by
  rw [fields, fields, ← List.drop_one, ← List.drop_one]
  have grown := lines_prefix p s part
  exact (grown.drop 1).map _

-- Of two streams of which one delivers less, its head says the same as far as it goes, and it goes
-- as far as what is delivered.
theorem heads_grow (less more : List ReadOutcome) (part : delivered less <+: delivered more) :
    let short := (Head.read less).1
    let whole := (Head.read more).1
    (short.stored = whole.stored ∨ short.stored = withoutReturns (delivered less)) ∧
      short.headers <+: whole.headers ∧
      ∀ name text, short.get? name = some text → whole.get? name = some text := by
  obtain ⟨used, rest, t, rfl, read, course⟩ := read_head less
  obtain ⟨used', rest', t', rfl, read', course'⟩ := read_head more
  have stored := stores_grow _ _ _ _ _ _ t t' (course_stores used rest t course)
    (course_stores used' rest' t' course') (part.filter _)
  have grown : fields (text used) <+: fields (text used') := by
    rcases stored with same | ⟨all, grows⟩
    · rw [same]
    · exact fields_prefix _ _ (all ▸ grows)
  rw [read, read']
  refine ⟨stored.imp id And.left, ?_, fun name text found => ?_⟩
  · rw [head_headers, head_headers]
    exact grown.filter _
  · rw [head_get] at found ⊢
    obtain ⟨field, first, valued⟩ := Option.bind_eq_some_iff.mp found
    exact Option.bind_eq_some_iff.mpr ⟨field, grown.find?_eq_some first, valued⟩

end ProxyTunnel.HeadText
