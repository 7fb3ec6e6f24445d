import ProxyTunnel.Diagnostics
import ProxyTunnel.Diagnostics.ValuePattern
import ProxyTunnel.Text.Blank
import ProxyTunnel.Text.Decimal
import ProxyTunnel.Text.LetterOrNumber
import ProxyTunnel.Text.Utf8

/-!
Directives of a filter: `target[span{field=value}]=level`, of which every part may be missing. A
directive is read character by character; `Place` says in which part a reader is and where that part
began.
-/

set_option autoImplicit false

namespace ProxyTunnel

structure FieldWish where
  name : Bytes
  valued : Bool
deriving DecidableEq, Repr

structure Directive where
  target : Option Bytes
  span : Option Bytes
  fields : List FieldWish
  threshold : Option Level
deriving DecidableEq, Repr

namespace Directive

def global (level : Level) : Directive := ⟨none, none, [], some level⟩

def threshold? (text : Bytes) : Option (Option Level) :=
  let lower := (Utf8.decode? text).map fun s => String.ofList (s.toList.map Char.toLower)
  match (Utf8.decode? text).bind (Decimal.readSigned? ·.toList), lower with
  | some 0, _ | _, some "off" => some none
  | some 1, _ | _, some "error" => some (some .error)
  | some 2, _ | _, some "warn" => some (some .warn)
  | some 3, _ | _, some "info" => some (some .info)
  | some 4, _ | _, some "debug" => some (some .debug)
  | some 5, _ | _, some "trace" => some (some .trace)
  | _, _ => none

inductive Place where
  | start
  -- A level or a target: what it is turns out at its end.
  | word (first : Nat)
  | span (first : Nat)
  | field (first : Nat)
  | afterField
  | afterSpan
  | level (first : Nat)
deriving DecidableEq, Repr

def canBegin (c : Char) : Bool := c == '-' || c == ':' || c == '_' || Text.isLetterOrNumber c

def slice (text : Bytes) (first last : Nat) : Bytes := (text.drop first).take (last - first)

-- Reads a field: its name, and perhaps a value between the first two equals signs, which must be
-- one that can be asked for.
def fieldWish? (text : Bytes) : Option FieldWish :=
  let name := text.takeWhile (· ≠ 61)
  match text.dropWhile (· ≠ 61) with
  | [] => some ⟨name, false⟩
  | _ :: rest =>
      match Utf8.decode? (rest.takeWhile (· ≠ 61)) with
      | some value => if ValuePattern.isAskable value.toList then some ⟨name, true⟩ else none
      | none => none

def step (text : Bytes) (d : Directive) (place : Place) (i : Nat) (c : Char) :
    Option (Directive × Place) :=
  match place with
  | .start =>
      if c = '[' then some (d, .span (i + 1))
      else if canBegin c then some (d, .word i)
      else none
  | .word first =>
      if c = '=' then some ({ d with target := some (slice text first i) }, .level (i + 1))
      else if c = '[' then some ({ d with target := some (slice text first i) }, .span (i + 1))
      else some (d, place)
  | .span first =>
      let name := slice text first i
      if c = ']' then some ({ d with span := some name }, .afterSpan)
      else if c = '{' then
        some ({ d with span := if name = [] then none else some name }, .field (i + 1))
      else some (d, place)
  | .field first =>
      if c = '}' then
        match slice text first i with
        | [] => none
        | field =>
            (fieldWish? field).map fun wish =>
              ({ d with fields := d.fields ++ [wish] }, .afterField)
      else some (d, place)
  | .afterField => if c = ']' then some (d, .afterSpan) else none
  | .afterSpan => if c = '=' then some (d, .level (i + 1)) else none
  | .level _ => some (d, place)

def finish (text : Bytes) (d : Directive) (place : Place) : Option Directive :=
  match place with
  | .word first =>
      let word := text.drop first
      match threshold? word with
      | some threshold => some { d with threshold }
      | none => some { d with target := some word }
  | .level first =>
      match text.drop first with
      | [] => some d
      | level => (threshold? level).map fun threshold => { d with threshold }
  | .afterSpan => some d
  | _ => none

def readFrom (text : Bytes) : Directive → Place → Nat → List Char → Option Directive
  | d, place, _, [] => finish text d place
  | d, place, i, c :: rest =>
      match step text d place i c with
      | none => none
      | some (d, place) => readFrom text d place (i + c.utf8Size) rest

-- Reads a directive. White space around it is passed by, yet places are counted from its first
-- character and looked up from the start of the text.
def read? (text : String) : Option Directive :=
  readFrom (Utf8.encode text) ⟨none, none, [], some .trace⟩ .start 0 (Text.trim text.toList)

-- Whether a directive can decide about a line by itself: not if it is for a span, nor if it asks
-- for the value of a field.
def isStatic (d : Directive) : Bool := d.span.isNone && !d.fields.any (·.valued)

-- Whether a directive applies to a component. The lines of every component have one field.
def applies (component : Component) (d : Directive) : Bool :=
  (d.target.map fun target => target.isPrefixOf (Utf8.encode component.path)).getD true
    && d.fields.all fun wish => wish.name == Utf8.encode Remark.field

def weight (d : Directive) : Nat × Nat :=
  ((d.target.map fun target => target.length + 1).getD 0, d.fields.length)

def isAsNarrow (d other : Directive) : Bool :=
  let (a, b) := (d.weight, other.weight)
  b.1 < a.1 || b.1 == a.1 && b.2 ≤ a.2

end Directive

end ProxyTunnel
