import ProxyTunnel.Child.Shell.Pattern

/-!
Regular expressions, in the basic and in the extended notation. Of the matches that start first the
longest counts.
-/

set_option autoImplicit false

namespace ProxyTunnel.Tool

inductive Regex where
  | empty
  | char (c : Char)
  | any
  | set (negated : Bool) (items : List SetItem)
  | lineStart
  | lineEnd
  | wordEdge
  | sequence (a b : Regex)
  | either (a b : Regex)
  -- Between a least and perhaps a greatest number of times.
  | repeated (a : Regex) (least : Nat) (most : Option Nat)
  | group (number : Nat) (a : Regex)
  | again (number : Nat)

namespace Regex

-- A text that is searched: what lies before the place at hand, latest first, what lies behind it,
-- and what groups have matched.
structure Cursor where
  before : List Char
  rest : List Char
  groups : List (Nat × List Char)

def isWordChar (c : Char) : Bool := c.isAlphanum || c == '_'

def same (ignoreCase : Bool) (a b : Char) : Bool :=
  if ignoreCase then a.toLower == b.toLower else a == b

def Cursor.step (k : Cursor) (c : Char) (rest : List Char) : Cursor :=
  { k with before := c :: k.before, rest }

def Cursor.pass (ignoreCase : Bool) (k : Cursor) : List Char → Option Cursor
  | [] => some k
  | d :: ds =>
      match k.rest with
      | [] => none
      | c :: rest => if same ignoreCase c d then (k.step c rest).pass ignoreCase ds else none

def ends (ignoreCase : Bool) : Nat → Regex → Cursor → List Cursor
  | 0, _, _ => []
  | _ + 1, .empty, k => [k]
  | _ + 1, .char d, k => (k.pass ignoreCase [d]).toList
  | _ + 1, .any, k =>
      match k.rest with
      | c :: rest => [k.step c rest]
      | [] => []
  | _ + 1, .set negated items, k =>
      match k.rest with
      | c :: rest =>
          let inside := items.any (·.contains c)
            || ignoreCase && (items.any (·.contains c.toLower) || items.any (·.contains c.toUpper))
          if inside != negated then [k.step c rest] else []
      | [] => []
  | _ + 1, .lineStart, k => if k.before.isEmpty then [k] else []
  | _ + 1, .lineEnd, k => if k.rest.isEmpty then [k] else []
  | _ + 1, .wordEdge, k =>
      let inside (c : Option Char) : Bool := (c.map isWordChar).getD false
      if inside k.before.head? != inside k.rest.head? then [k] else []
  | n + 1, .sequence a b, k => (ends ignoreCase n a k).flatMap (ends ignoreCase n b)
  | n + 1, .either a b, k => ends ignoreCase n a k ++ ends ignoreCase n b k
  | n + 1, .repeated a least most, k =>
      let again :=
        if most = some 0 then []
        else
          let once := (ends ignoreCase n a k).filter fun j =>
            j.rest.length < k.rest.length ∨ 0 < least
          once.flatMap (ends ignoreCase n (.repeated a (least - 1) (most.map (· - 1))))
      again ++ (if least = 0 then [k] else [])
  | n + 1, .group number a, k =>
      (ends ignoreCase n a k).map fun j =>
        let text := k.rest.take (k.rest.length - j.rest.length)
        { j with groups := (number, text) :: j.groups }
  | _ + 1, .again number, k =>
      match k.groups.lookup number with
      | some text => (k.pass ignoreCase text).toList
      | none => []

def longestAt (ignoreCase : Bool) (r : Regex) (k : Cursor) : Option Cursor :=
  (ends ignoreCase (4 * k.rest.length + 200) r k).foldl
    (fun best j =>
      match best with
      | none => some j
      | some b => if j.rest.length < b.rest.length then some j else best)
    none

def find (ignoreCase : Bool) (r : Regex) : Nat → Cursor → Option (Cursor × Cursor)
  | 0, _ => none
  | n + 1, k =>
      match longestAt ignoreCase r k with
      | some j => some (k, j)
      | none =>
          match k.rest with
          | [] => none
          | c :: rest => find ignoreCase r n (k.step c rest)

def search (ignoreCase : Bool) (r : Regex) (text : List Char) : Option (Cursor × Cursor) :=
  find ignoreCase r (text.length + 1) ⟨[], text, []⟩

-- A reader of regular expressions: what was read, how many groups there are, and what is left.
abbrev Read := Option (Regex × Nat × List Char)

def readBounds (extended : Bool) (cs : List Char) : Option (Nat × Option Nat × List Char) :=
  let number (ds : List Char) : Nat := ds.foldl (fun n c => 10 * n + (c.toNat - 48)) 0
  let low := cs.takeWhile Char.isDigit
  let rest := cs.drop low.length
  let (high, rest) : Option Nat × List Char :=
    match rest with
    | ',' :: rest =>
        let high := rest.takeWhile Char.isDigit
        (if high.isEmpty then none else some (number high), rest.drop high.length)
    | rest => (some (number low), rest)
  match extended, rest with
  | true, '\x7d' :: rest | false, '\\' :: '\x7d' :: rest => some (number low, high, rest)
  | _, _ => none

def readRepetitions (extended : Bool) : Nat → Regex → List Char → Regex × List Char
  | 0, a, cs => (a, cs)
  | n + 1, a, cs =>
      match extended, cs with
      | _, '*' :: rest => readRepetitions extended n (.repeated a 0 none) rest
      | true, '+' :: rest | false, '\\' :: '+' :: rest =>
          readRepetitions extended n (.repeated a 1 none) rest
      | true, '?' :: rest | false, '\\' :: '?' :: rest =>
          readRepetitions extended n (.repeated a 0 (some 1)) rest
      | true, '\x7b' :: rest | false, '\\' :: '\x7b' :: rest =>
          match readBounds extended rest with
          | some (least, most, rest) => readRepetitions extended n (.repeated a least most) rest
          | none => (a, cs)
      | _, cs => (a, cs)

def readSet (cs : List Char) : Option (Regex × List Char) :=
  let (negated, cs) :=
    match cs with
    | '^' :: rest => (true, rest)
    | rest => (false, rest)
  (SetItem.readAll true [] (cs.map (·, false))).map fun (items, rest) =>
    (.set negated items, rest.map (·.1))

mutual
def readAlternatives (extended : Bool) : Nat → Nat → List Char → Read
  | 0, _, _ => none
  | n + 1, groups, cs => do
      let (a, groups, rest) ← readSequence extended n true groups cs
      match extended, rest with
      | true, '|' :: rest | false, '\\' :: '|' :: rest =>
          let (b, groups, rest) ← readAlternatives extended n groups rest
          return (.either a b, groups, rest)
      | _, rest => return (a, groups, rest)

def readSequence (extended : Bool) : Nat → Bool → Nat → List Char → Read
  | 0, _, _, _ => none
  | n + 1, first, groups, cs =>
      let ended :=
        match extended, cs with
        | _, [] => true
        | true, '|' :: _ | true, ')' :: _ => true
        | false, '\\' :: '|' :: _ | false, '\\' :: ')' :: _ => true
        | _, _ => false
      if ended then some (.empty, groups, cs)
      else do
        let (a, groups, rest) ← readAtom extended n first groups cs
        let (a, rest) :=
          match a with
          | .lineStart => (a, rest)
          | a => readRepetitions extended (rest.length + 1) a rest
        let stillFirst :=
          match a with
          | .lineStart => true
          | _ => false
        let (b, groups, rest) ← readSequence extended n stillFirst groups rest
        return (.sequence a b, groups, rest)

def readAtom (extended : Bool) : Nat → Bool → Nat → List Char → Read
  | 0, _, _, _ => none
  | n + 1, first, groups, cs =>
      let group (rest : List Char) : Read := do
        let number := groups + 1
        let (a, groups, rest) ← readAlternatives extended n number rest
        match extended, rest with
        | true, ')' :: rest | false, '\\' :: ')' :: rest => return (.group number a, groups, rest)
        | _, _ => none
      match extended, cs with
      | _, [] => none
      | _, '.' :: rest => some (.any, groups, rest)
      | _, '[' :: rest => (readSet rest).map fun (a, rest) => (a, groups, rest)
      | true, '^' :: rest => some (.lineStart, groups, rest)
      | false, '^' :: rest =>
          some (if first then .lineStart else .char '^', groups, rest)
      | true, '$' :: rest => some (.lineEnd, groups, rest)
      | false, '$' :: rest =>
          let last :=
            match rest with
            | [] | '\\' :: ')' :: _ | '\\' :: '|' :: _ => true
            | _ => false
          some (if last then .lineEnd else .char '$', groups, rest)
      | true, '(' :: rest | false, '\\' :: '(' :: rest => group rest
      | true, '*' :: rest => if first then some (.char '*', groups, rest) else none
      | _, '\\' :: c :: rest =>
          if c.isDigit && c != '0' then some (.again (c.toNat - 48), groups, rest)
          else
            match c with
            | 'w' => some (.set false [.named "alnum", .range '_' '_'], groups, rest)
            | 'W' => some (.set true [.named "alnum", .range '_' '_'], groups, rest)
            | 's' => some (.set false [.named "space"], groups, rest)
            | 'S' => some (.set true [.named "space"], groups, rest)
            | 'b' | '<' | '>' => some (.wordEdge, groups, rest)
            | 'n' => some (.char '\n', groups, rest)
            | 't' => some (.char '\t', groups, rest)
            | c => some (.char c, groups, rest)
      | _, ['\\'] => none
      | _, c :: rest => some (.char c, groups, rest)
end

def read? (extended : Bool) (text : String) : Option Regex :=
  let cs := text.toList
  match readAlternatives extended (6 * cs.length + 6) 0 cs with
  | some (r, _, []) => some r
  | _ => none

def ofText (text : String) : Regex :=
  text.toList.foldr (fun c r => .sequence (.char c) r) .empty

end Regex

end ProxyTunnel.Tool
