import ProxyTunnel.Launch.Library
import ProxyTunnel.Proofs.Launch.Inheritance
import ProxyTunnel.Proofs.Text.Lossy

/-!
The list of libraries that a child is told to load. The launcher carries it as a text: the library
that was found comes first, and those that were listed before come after it, as far as they are
texts.
-/

set_option autoImplicit false

namespace ProxyTunnel.Injection

open Environment

-- The entries of a list of libraries, between colons; none, if it is missing or empty.
def listed : Option Bytes → List Bytes
  | none | some [] => []
  | some list => list.splitOn 58

theorem listed_some (list : Bytes) (more : list ≠ []) : listed (some list) = list.splitOn 58 := by
  cases list with
  | nil => exact absurd rfl more
  | cons => rfl

theorem listed_empty (existing : Option Bytes) (nothing : listed existing = []) :
    ∀ list ∈ existing, list = [] := by
  rintro list rfl
  by_contra more
  rw [listed_some list more] at nothing
  exact List.splitOn_ne_nil 58 list nothing

theorem empty_text : Utf8.decode? [] = some "" := Utf8.decode_encode ""

theorem value_listed (library : Bytes) (existing : Option String) (single : 58 ∉ library) :
    (Utf8.encode (linkerValue library existing)).splitOn 58 =
      Utf8.encode (Utf8.lossy library) :: listed (existing.map Utf8.encode) := by
  have colonless : 58 ∉ Utf8.encode (Utf8.lossy library) :=
    fun held => single (Utf8.lossy_byte library 58 (by decide) (by decide) held)
  unfold linkerValue
  split
  · exact List.splitOn_eq_singleton colonless
  · exact List.splitOn_eq_singleton colonless
  · next list more =>
      have colon : Utf8.encode ":" = [58] := rfl
      have filled : Utf8.encode list ≠ [] := mt (Utf8.encode_empty list).mp more
      rw [Utf8.encode_append, Utf8.encode_append, colon, List.append_assoc, List.singleton_append,
        List.splitOn_append_cons_self_of_not_mem colonless, Option.map_some, listed_some _ filled]

-- A list that is no text is not carried over.
theorem text_listed_iff (existing : Option Bytes) :
    listed ((existing.bind Utf8.decode?).map Utf8.encode) = listed existing ↔
      ∀ list ∈ existing, (Utf8.decode? list).isSome = true := by
  cases existing with
  | none => simp
  | some list =>
      cases read : Utf8.decode? list with
      | some text => simp [read, Utf8.decode_spells list text read]
      | none =>
          have filled : list ≠ [] := by
            rintro rfl
            rw [empty_text] at read
            cases read
          rw [Option.bind_some, read, Option.map_none, listed_some list filled]
          constructor
          · exact fun same => absurd same.symm (List.splitOn_ne_nil 58 list)
          · intro texts
            have text := texts list rfl
            rw [read] at text
            cases text

variable (i : Injection) (library : Bytes) (program : String) (arguments : List String)
  (env : Environment)

theorem launched_list (existing : Option String) :
    (i.launched library existing program arguments env).get? linkerVariable =
      some (Utf8.encode (linkerValue library existing)) := by
  have apart := (List.nodup_cons.mp (child_distinct i library existing)).1
  exact (set_all_read_other _ _ _ apart).trans (set_read env _ _)

-- The library comes before the entries that were listed, and all of these are kept, exactly if the
-- library and the list are texts. A library that is no text is listed under another name; a list
-- that is no text is lost.
theorem library_listed (single : 58 ∉ library) :
    ∃ list, (i.launched library (env.getText? linkerVariable) program arguments env).get?
        linkerVariable = some list ∧
      list.splitOn 58 = Utf8.encode (Utf8.lossy library) ::
        listed ((env.getText? linkerVariable).map Utf8.encode) ∧
      (list.splitOn 58 = library :: listed (env.get? linkerVariable) ↔
        (Utf8.decode? library).isSome = true ∧
          ∀ existing ∈ env.get? linkerVariable, (Utf8.decode? existing).isSome = true) ∧
      (listed (env.get? linkerVariable) = [] → list = Utf8.encode (Utf8.lossy library)) := by
  have entries := value_listed library (env.getText? linkerVariable) single
  refine ⟨_, launched_list i library program arguments env _, entries, ?_, ?_⟩
  · rw [entries, List.cons.injEq, Utf8.lossy_same_iff]
    exact and_congr_right fun _ => text_listed_iff (env.get? linkerVariable)
  · intro nothing
    have texts : ∀ existing ∈ env.get? linkerVariable, (Utf8.decode? existing).isSome = true := by
      intro existing present
      rw [listed_empty (env.get? linkerVariable) nothing existing present, empty_text]
      rfl
    have kept : listed ((env.getText? linkerVariable).map Utf8.encode) = [] :=
      ((text_listed_iff (env.get? linkerVariable)).mpr texts).trans nothing
    rw [kept] at entries
    calc Utf8.encode (linkerValue library (env.getText? linkerVariable))
        = [58].intercalate [Utf8.encode (Utf8.lossy library)] := by
          rw [← entries, List.intercalate_splitOn]
      _ = Utf8.encode (Utf8.lossy library) := List.intercalate_singleton

def preloading : Environment := spelled [("LD_PRELOAD", "a.so:b.so")]

theorem library_listed_ahead : 58 ∉ Utf8.encode "/lib/x.so" ∧
    ∃ list, (usable.launched (Utf8.encode "/lib/x.so") (preloading.getText? linkerVariable) "true"
        [] preloading).get? linkerVariable = some list ∧
      list.splitOn 58 = ["/lib/x.so", "a.so", "b.so"].map Utf8.encode := by
  have single : 58 ∉ Utf8.encode "/lib/x.so" := by decide
  obtain ⟨list, read, entries, _⟩ :=
    library_listed usable (Utf8.encode "/lib/x.so") "true" [] preloading single
  exact ⟨single, list, read, entries.trans (by decide +kernel)⟩

-- A path that is no text, a tree in which it leads to a file, and a list that holds it.
def stray : Bytes := Utf8.encode "/" ++ [0xFF] ++ Utf8.encode ".so"

def shelf : FileTree := ⟨.cons (stray.drop 1) (.file [] false) .nil, []⟩

def straying : Environment := [(Utf8.encode linkerVariable, stray)]

theorem stray_place : shelf.place stray = .ok [stray.drop 1] := by
  have start : shelf.startOf stray = .ok [] := by decide
  have parts : FileTree.splitPath stray = [[], stray.drop 1] := by decide
  have root : shelf.isDirectoryAt [] = true := by rfl
  have file : shelf.nodeAt? [stray.drop 1] = some (.file [] false) := by rfl
  have named : stray.drop 1 = [0xFF, 46, 115, 111] := by decide
  rw [FileTree.place, start, parts]
  simp only [FileTree.follow, root, named] at file ⊢
  simp [file, FileTree.maxName]

-- Found and listed under another name, or listed and lost.
theorem stray_not_listed : Library.locate shelf ⟨some stray, none, none⟩ = .ok stray ∧
    58 ∉ stray ∧ 32 ∉ stray ∧
    (((usable.launched stray none "true" [] []).get? linkerVariable).map (List.splitOn 58) =
      some [Utf8.encode "/\uFFFD.so"] ∧ Utf8.encode "/\uFFFD.so" ≠ stray) ∧
    ((usable.launched (Utf8.encode "/x.so") (straying.getText? linkerVariable) "true" []
      straying).get? linkerVariable).map (List.splitOn 58) = some [Utf8.encode "/x.so"] := by
  refine ⟨?_, by decide +kernel⟩
  have file : shelf.resolve stray = .ok (.file [] false) := by
    rw [FileTree.resolve, stray_place]
    rfl
  have nul : 0 ∉ stray := by decide
  simp only [Library.locate, FileTree.isFile, if_neg nul, file, if_true]

end ProxyTunnel.Injection
