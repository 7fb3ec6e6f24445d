import ProxyTunnel.Child.BinaryReal
import ProxyTunnel.Child.Escape
import ProxyTunnel.Child.Tool.Citation

/-!
Formats of `printf`: directives take arguments one after another, and the format is used again as
long as arguments are left. The shell and the tool differ in escapes and in their complaints.
-/

set_option autoImplicit false

namespace ProxyTunnel

structure FormatDialect where
  inFormat : List Char → Escape.Next
  inArgument : List Char → Escape.Next
  noNumber : String → String
  -- Says that only the first part of an argument is a number.
  partNumber : String → String
  outOfRange : String → String
  noDirective : String → String
  unfinished : String → String
  realBits : Nat
  -- Letters in front of the letter of a directive that change nothing.
  sizes : List Char
  emptyIsZero : Bool

namespace FormatDialect

def shell : FormatDialect :=
  ⟨Escape.inShellFormat, Escape.inShellArgument, (· ++ ": expected numeric value"),
    (· ++ ": not completely converted"), (· ++ ": Numerical result out of range"),
    (· ++ ": invalid directive"), fun _ => "missing format character", 53, [], true⟩

def tool : FormatDialect :=
  ⟨Escape.inToolFormat, Escape.inToolArgument, (Tool.cite · ++ ": expected a numeric value"),
    (Tool.cite · ++ ": value not completely converted"),
    (Tool.cite · ++ ": Numerical result out of range"),
    (· ++ ": invalid conversion specification"), (· ++ ": invalid conversion specification"), 64,
    "lLhjtz".toList, false⟩

end FormatDialect

structure Format.Shape where
  flags : List Char
  width : Nat
  precision : Option Nat
deriving DecidableEq, Repr

structure Formatting where
  written : String
  -- What was wrong, with the length of what had been written before.
  problems : List String
  arguments : List String
  used : Bool
  stopped : Bool
  broken : Bool

namespace Formatting

def put (f : Formatting) (text : String) : Formatting := { f with written := f.written ++ text }

def object (f : Formatting) (problem : String) : Formatting :=
  { f with problems := f.problems ++ [problem] }

def next (f : Formatting) : Option String × Formatting :=
  match f.arguments with
  | [] => (none, { f with used := true })
  | a :: rest => (some a, { f with arguments := rest, used := true })

end Formatting

namespace Format

def widen (shape : Shape) (text : String) : String :=
  let blanks := String.ofList (List.replicate (shape.width - text.length) ' ')
  if shape.flags.contains '-' then text ++ blanks else blanks ++ text

def number (shape : Shape) (front digits : String) (zerosMay : Bool) : String :=
  if zerosMay && shape.flags.contains '0' && !shape.flags.contains '-' then
    let zeros := shape.width - front.length - digits.length
    front ++ String.ofList (List.replicate zeros '0') ++ digits
  else widen shape (front ++ digits)

def sign (shape : Shape) (negative : Bool) : String :=
  if negative then "-"
  else if shape.flags.contains '+' then "+"
  else if shape.flags.contains ' ' then " "
  else ""

def withPlaces (shape : Shape) (digits : String) : String :=
  match shape.precision with
  | none => digits
  | some 0 => if digits = "0" then "" else digits
  | some places => String.ofList (List.replicate (places - digits.length) '0') ++ digits

def whole (shape : Shape) (letter : Char) (n : Int) : String :=
  let unsigned : Nat := if n < 0 then (n + Nat.pow 2 64).toNat else n.toNat
  let inBase (base : Nat) : String := String.ofList (Nat.toDigits base unsigned)
  let free := shape.precision.isNone
  match letter with
  | 'd' | 'i' => number shape (sign shape (n < 0)) (withPlaces shape (toString n.natAbs)) free
  | 'o' =>
      let digits := withPlaces shape (inBase 8)
      let digits :=
        if shape.flags.contains '#' && digits.toList.head? != some '0' then "0" ++ digits
        else digits
      number shape "" digits free
  | 'x' | 'X' =>
      let digits := withPlaces shape (inBase 16)
      let front := if shape.flags.contains '#' && unsigned ≠ 0 then "0x" else ""
      if letter = 'X' then number shape front.toUpper digits.toUpper free
      else number shape front digits free
  | _ => number shape "" (withPlaces shape (inBase 10)) free

def real (shape : Shape) (letter : Char) (negative : Bool) (r : BinaryReal) : String :=
  let places := shape.precision.getD 6
  let more := shape.flags.contains '#'
  let digits :=
    match letter with
    | 'f' | 'F' => r.fixed places more
    | 'e' | 'E' => r.scientific places letter more
    | 'g' => r.general places 'e' more
    | _ => r.general places 'E' more
  number shape (sign shape negative) digits true

def isBlank (c : Char) : Bool := c == ' ' || (9 ≤ c.toNat && c.toNat ≤ 13)

-- The number at the start of an argument, and what follows it. A quote in front of a character
-- stands for the number of the character.
def readWhole (text : String) : Option (Int × List Char) :=
  match text.toList with
  | '"' :: rest | '\'' :: rest => some (((rest.head?.map Char.toNat).getD 0 : Nat), [])
  | cs =>
      let cs := cs.dropWhile isBlank
      let (negative, cs) :=
        match cs with
        | '-' :: rest => (true, rest)
        | '+' :: rest => (false, rest)
        | rest => (false, rest)
      let isHex (c : Char) : Bool := Escape.isHex c
      let value (base : Nat) (ds : List Char) : Nat :=
        ds.foldl
          (fun n c =>
            base * n + (if c.isDigit then c.toNat - 48 else if 'a' ≤ c then c.toNat - 87
              else c.toNat - 55))
          0
      let signed (n : Nat) : Int := if negative then -(n : Int) else n
      match cs with
      | '0' :: x :: d :: rest =>
          if (x = 'x' ∨ x = 'X') ∧ isHex d then
            let ds := (d :: rest).takeWhile isHex
            some (signed (value 16 ds), (d :: rest).drop ds.length)
          else
            let ds := cs.takeWhile Escape.isOctal
            some (signed (value 8 ds), cs.drop ds.length)
      | '0' :: rest =>
          let ds := rest.takeWhile Escape.isOctal
          some (signed (value 8 ds), rest.drop ds.length)
      | _ =>
          let ds := cs.takeWhile Char.isDigit
          if ds.isEmpty then none else some (signed (value 10 ds), cs.drop ds.length)

def takeWhole (d : FormatDialect) (hasSign : Bool) (f : Formatting) : Int × Formatting :=
  match f.next with
  | (none, f) => (0, f)
  | (some text, f) =>
      match readWhole text with
      | none => (0, if d.emptyIsZero && text = "" then f else f.object (d.noNumber text))
      | some (n, rest) =>
          let low : Int := if hasSign then -(Nat.pow 2 63 : Nat) else -(Nat.pow 2 64 - 1 : Nat)
          let high : Int := if hasSign then (Nat.pow 2 63 - 1 : Nat) else (Nat.pow 2 64 - 1 : Nat)
          if n < low ∨ high < n then
            (if hasSign ∧ n < low then low else high, f.object (d.outOfRange text))
          else if rest.isEmpty then (n, f)
          else (n, f.object (d.partNumber text))

def takeReal (d : FormatDialect) (f : Formatting) : (Bool × BinaryReal) × Formatting :=
  match f.next with
  | (none, f) => ((false, ⟨0, 0⟩), f)
  | (some text, f) =>
      match BinaryReal.read? (text.toList.dropWhile isBlank) with
      | none =>
          ((false, ⟨0, 0⟩), if d.emptyIsZero && text = "" then f else f.object (d.noNumber text))
      | some (negative, a, b, rest) =>
          let value := (negative, BinaryReal.ofQuotient d.realBits a b)
          if rest.isEmpty then (value, f) else (value, f.object (d.partNumber text))

def apply (d : FormatDialect) (shape : Shape) (letter : Char) (source : String)
    (f : Formatting) : Formatting :=
  let cut (text : String) : String := (shape.precision.map (Raw.take text)).getD text
  match letter with
  | 's' =>
      let (text, f) := f.next
      f.put (widen shape (cut (text.getD "")))
  | 'b' =>
      let (text, f) := f.next
      let (text, stopped) := Escape.interpret d.inArgument (text.getD "")
      { f.put (widen shape (cut text)) with stopped }
  | 'c' =>
      let (text, f) := f.next
      f.put (widen shape (Raw.take (text.getD "") 1))
  | 'd' | 'i' =>
      let (n, f) := takeWhole d true f
      f.put (whole shape letter n)
  | 'o' | 'u' | 'x' | 'X' =>
      let (n, f) := takeWhole d false f
      f.put (whole shape letter n)
  | 'e' | 'E' | 'f' | 'F' | 'g' | 'G' =>
      let ((negative, r), f) := takeReal d f
      f.put (real shape letter negative r)
  | _ => { f.object (d.noDirective source) with stopped := true, broken := true }

def readSize (d : FormatDialect) (cs : List Char) (f : Formatting) :
    Option Int × List Char × Formatting :=
  match cs with
  | '*' :: rest =>
      let (n, f) := takeWhole d true f
      (some n, rest, f)
  | _ =>
      let ds := cs.takeWhile Char.isDigit
      let n : Nat := ds.foldl (fun n c => 10 * n + (c.toNat - 48)) 0
      (if ds.isEmpty then none else some n, cs.drop ds.length, f)

def directive (d : FormatDialect) (cs : List Char) (f : Formatting) : List Char × Formatting :=
  let flags := cs.takeWhile fun c => "#-+ 0".toList.contains c
  let (width, rest, f) := readSize d (cs.drop flags.length) f
  let (precision, rest, f) :=
    match rest with
    | '.' :: rest =>
        let (n, rest, f) := readSize d rest f
        (some (n.getD 0), rest, f)
    | rest => (none, rest, f)
  let width := width.getD 0
  let flags := if width < 0 then '-' :: flags else flags
  let shape : Shape :=
    ⟨flags, width.natAbs, precision.bind fun n => if n < 0 then none else some n.toNat⟩
  let source (rest : List Char) : String :=
    String.ofList ('%' :: cs.take (cs.length - rest.length))
  match rest.dropWhile d.sizes.contains with
  | [] => ([], { f.object (d.unfinished (source [])) with stopped := true, broken := true })
  | letter :: rest => (rest, apply d shape letter (source rest) f)

def once (d : FormatDialect) : Nat → List Char → Formatting → Formatting
  | 0, _, f => f
  | _, [], f => f
  | n + 1, '\\' :: rest, f =>
      match d.inFormat rest with
      | .stop => { f with stopped := true }
      | .text text rest => once d n rest (f.put (String.ofList text))
  | n + 1, '%' :: '%' :: rest, f => once d n rest (f.put "%")
  | n + 1, '%' :: rest, f =>
      let (rest, f) := directive d rest f
      if f.stopped then f else once d n rest f
  | n + 1, c :: rest, f => once d n rest { f with written := f.written.push c }

def repeatedly (d : FormatDialect) (format : List Char) : Nat → Formatting → Formatting
  | 0, f => f
  | n + 1, f =>
      let after := once d (format.length + 1) format f
      if after.stopped || after.arguments.isEmpty || !after.used then after
      else repeatedly d format n after

def run (d : FormatDialect) (format : String) (arguments : List String) : Formatting :=
  repeatedly d format.toList (arguments.length + 1) ⟨"", [], arguments, false, false, false⟩

end Format

end ProxyTunnel
