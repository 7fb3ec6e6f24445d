import ProxyTunnel.Text.LowerCase

/-!
Values of settings: scalars, tables of named values, and arrays. Of an array the values are kept
that were put into it, under the numerals of their places; the others are null.
-/

set_option autoImplicit false

namespace ProxyTunnel

mutual
inductive Value where
  | null
  | flag (b : Bool)
  | integer (n : Int)
  | decimal (digits : Int) (places : Nat)
  | text (s : String)
  | array (length : Nat) (items : Table)
  | table (entries : Table)

inductive Table where
  | nil
  | cons (name : String) (value : Value) (rest : Table)
end

instance : Inhabited Value := ⟨.null⟩

instance : Inhabited Table := ⟨.nil⟩

namespace Table

def get? : Table → String → Option Value
  | nil, _ => none
  | cons n v rest, name => if n = name then some v else rest.get? name

def put : Table → String → Value → Table
  | nil, name, value => cons name value nil
  | cons n v rest, name, value =>
      if n = name then cons n value rest else cons n v (rest.put name value)

theorem get?_put (t : Table) (name : String) (value : Value) :
    (t.put name value).get? name = some value := by
  fun_induction put t name value <;> simp_all [get?]

end Table

namespace Value

-- The table that a value is; anything else gives way to an empty one.
def asTable : Option Value → Table
  | some (.table entries) => entries
  | _ => .nil

-- The array that a value is; anything else gives way to an empty one.
def asArray : Option Value → Nat × Table
  | some (.array length items) => (length, items)
  | _ => (0, .nil)

-- An array has fewer places than this: more of them do not fit into one allocation.
def placeEnd : Nat := Nat.pow 2 56

-- The place in an array of a length that an index means; a negative one counts from the end.
def placeOf? (length : Nat) (index : Int) : Option Nat :=
  let place := if index < 0 then length + index else index
  if 0 ≤ place ∧ place < placeEnd then some place.toNat else none

-- The decimal numeral of a fraction, with at least one digit before the point and without zeros at
-- the end.
def decimalText (digits : Int) (places : Nat) : String :=
  let size := digits.natAbs
  let scale := Nat.pow 10 places
  let fraction :=
    (Nat.toDigits 10 (scale + size % scale)).tail.reverse.dropWhile (· = '0') |>.reverse
  (if digits < 0 then "-" else "") ++ toString (size / scale)
    ++ (if fraction = [] then "" else "." ++ String.ofList fraction)

-- How a value reads as a text: nothing for null; an error names the shape that is no text.
def asText : Value → Except String (Option String)
  | null => .ok none
  | flag b => .ok (some (if b then "true" else "false"))
  | integer n => .ok (some (toString n))
  | decimal digits places => .ok (some (decimalText digits places))
  | text s => .ok (some s)
  | array _ _ => .error "sequence"
  | table _ => .error "map"

end Value

mutual
-- What becomes of a value when another is assigned: tables are merged into tables name by name,
-- anything else replaces. Merging an empty table into a value that is no table leaves that alone.
def Value.assign (old : Option Value) : Value → Value
  | .table entries => entries.mergeInto (old.getD (.table .nil))
  | .null => .null
  | .flag b => .flag b
  | .integer n => .integer n
  | .decimal digits places => .decimal digits places
  | .text s => .text s
  | .array length items => .array length items

def Table.mergeInto (target : Value) : Table → Value
  | .nil => target
  | .cons name value rest =>
      let table := Value.asTable (some target)
      let key := Text.lower name
      rest.mergeInto (.table (table.put key (Value.assign (table.get? key) value)))
end

end ProxyTunnel
