import ProxyTunnel.Child.Shell.Source

/-!
Reading words: what quotes, backslashes and dollar signs mean, and where a word ends.
-/

set_option autoImplicit false

namespace ProxyTunnel.Shell

inductive Surroundings where
  | bare
  | quotes
  | braces (quoted : Bool)
  | sum
  | hereText
  -- In the word that ends such a text; nothing is expanded in it.
  | endMark (quoted : Bool)
deriving DecidableEq, Repr

def Surroundings.quoted : Surroundings → Bool
  | bare | braces false | endMark false => false
  | quotes | braces true | sum | hereText | endMark true => true

structure Nested where
  word : Surroundings → Reader Word
  -- A list of commands, which may be allowed to be empty, and the token behind it given back.
  list : Bool → Reader (Option Command)
  command : Reader Command

namespace Word

def isEnd (c : Char) : Bool := " \t\n;&|<>()".toList.contains c

def push (word : Word) (c : Char) (quoted : Bool) : Word :=
  match word with
  | .literal text q :: rest =>
      if q = quoted then .literal (text.push c) q :: rest
      else .literal (String.singleton c) quoted :: word
  | _ => .literal (String.singleton c) quoted :: word

def singleQuoted : Reader String :=
  Reader.repeated "" fun text => do
    match ← Reader.take with
    | none => Reader.complain "Unterminated quoted string"
    | some '\'' => return .inr text
    | some c => return .inl (text.push c)

def readUse (n : Nested) (quoted : Bool) : Reader Use := do
  let demand (notEmpty : Bool) : Reader Use := do
    let sign ← Reader.peekJoined
    Reader.skip
    let word ← n.word (.braces quoted)
    let d : Demand := ⟨notEmpty⟩
    return match sign with
      | some '-' => .orElse d word
      | some '=' => .orAssign d word
      | some '?' => .orFail d word
      | some '+' => .ifMet d word
      | _ => .nonsense
  match ← Reader.peekJoined with
  | some '\x7d' =>
      Reader.skip
      return .value
  | some ':' =>
      Reader.skip
      demand true
  | some '#' =>
      Reader.skip
      let longest ← Reader.accept '#'
      return .withoutStart longest (← n.word (.braces false))
  | some '%' =>
      Reader.skip
      let longest ← Reader.accept '%'
      return .withoutEnd longest (← n.word (.braces false))
  | _ => demand false

def readName : Reader String := do
  match ← Reader.peekJoined with
  | some c =>
      if isNameStart c then Reader.takeWhile isNameChar
      else if c.isDigit then Reader.takeWhile Char.isDigit
      else
        Reader.skip
        return String.singleton c
  | none => return ""

-- A parameter between braces. After a number sign it may be the length that is meant.
def readBraced (n : Nested) (quoted : Bool) : Reader Fragment := do
  let plain (name : String) : Reader Fragment := do
    return .parameter name (← readUse n quoted) quoted
  let nonsense : Reader Fragment := do
    let _ ← n.word (.braces quoted)
    return .parameter "" .nonsense quoted
  let length : Reader (Option Fragment) := do
    let name ← readName
    if ← Reader.accept '\x7d' then return some (.parameter name .length quoted)
    else return none
  match ← Reader.peekJoined with
  | some '#' =>
      Reader.skip
      let before ← get
      match ← Reader.peekJoined with
      | some c =>
          if isNameChar c || isSpecial c then
            match ← length with
            | some fragment => return fragment
            | none =>
                if isNameChar c then nonsense
                else
                  set before
                  plain "#"
          else plain "#"
      | none => nonsense
  | some c =>
      if isNameStart c || isSpecial c then plain (← readName)
      else
        if c ≠ '\x7d' then Reader.skip
        nonsense
  | none => nonsense

def takePushed : Reader Token := do
  let source ← get
  set { source with pushed := none }
  return source.pushed.getD .endOfFile

-- What stands behind a dollar sign; one that introduces nothing stands for itself.
def readDollar (n : Nested) (quoted : Bool) : Reader Fragment := do
  match ← Reader.peekJoined with
  | some '(' =>
      Reader.skip
      if ← Reader.accept '(' then return .number (← n.word .sum) quoted
      else
        Reader.withoutMark do
          let command ← n.list true
          match ← takePushed with
          | .closing => return .output command quoted
          | found => Reader.unexpected found (some .closing)
  | some '\x7b' =>
      Reader.skip
      readBraced n quoted
  | some c =>
      if isNameStart c then return .parameter (← Reader.takeWhile isNameChar) .value quoted
      else if isSpecial c then
        Reader.skip
        return .parameter (String.singleton c) .value quoted
      else return .literal "$" quoted
  | none => return .literal "$" quoted

-- The commands between grave accents. A backslash in front of another one, of a dollar sign, of a
-- grave accent, and between double quotes of a quote, is dropped first.
def readOlder (n : Nested) (quoted : Bool) : Reader Fragment := do
  let text ← Reader.withoutMark <| Reader.repeated "" fun text => do
    match ← Reader.take with
    | none => Reader.complain "EOF in backquote substitution"
    | some '\\' =>
        match ← Reader.take with
        | none => return .inl (text.push '\\')
        | some '\n' => return .inl text
        | some c =>
            if c = '\\' ∨ c = '$' ∨ c = graveAccent ∨ (quoted ∧ c = '"') then
              return .inl (text.push c)
            else return .inl ((text.push '\\').push c)
    | some c => if c = graveAccent then return .inr text else return .inl (text.push c)
  let inner := (Source.ofText text 1).withAliases (← get).aliases
  let (command, _) ← (n.list true).run inner
  return .output command quoted

def escaped (place : Surroundings) (c : Char) : Word :=
  let dropped :=
    match place with
    | .bare | .braces false | .endMark false => true
    | .quotes | .endMark true => "\\$\"".toList.contains c || c == graveAccent
    | .braces true => "\\$\"\x7d".toList.contains c || c == graveAccent
    | .sum | .hereText => "\\$".toList.contains c || c == graveAccent
  if dropped then [.literal (String.singleton c) true]
  else [.literal (String.ofList ['\\', c]) true]

def atEnd (place : Surroundings) (word : Word) : Reader (Word × Nat ⊕ Word) := do
  let missing {α : Type} (sign : String) : Reader α := Reader.complain s!"Missing '{sign}'"
  match place with
  | .bare | .hereText | .endMark false => return .inr word.reverse
  | .braces true =>
      if (← get).mark.isSome then missing "\x7d"
      else Reader.complain "Unterminated quoted string"
  | .quotes | .endMark true => Reader.complain "Unterminated quoted string"
  | .braces false => missing "\x7d"
  | .sum => missing "))"

-- One step of reading a word: what the next character adds to it. `depth` counts parentheses that
-- are open in an arithmetic expression.
def step (n : Nested) (place : Surroundings) (word : Word) (depth : Nat) :
    Reader (Word × Nat ⊕ Word) := do
  let quoted := place.quoted
  match ← Reader.peekJoined with
  | none => atEnd place word
  | some c =>
      if (place = .bare ∨ place = .endMark false) ∧ isEnd c then return .inr word.reverse
      else
        Reader.skip
        match place, c with
        | .quotes, '"' | .endMark true, '"' | .braces _, '\x7d' => return .inr word.reverse
        | .braces true, '"' | .sum, '"' => return .inl (word, depth)
        | .sum, '(' => return .inl (word.push c true, depth + 1)
        | .sum, ')' =>
            if 0 < depth then return .inl (word.push c true, depth - 1)
            else if ← Reader.accept ')' then return .inr word.reverse
            else return .inl (word.push c true, depth)
        | _, '\\' =>
            match ← Reader.take with
            | none => return .inl (word.push '\\' true, depth)
            | some c => return .inl (escaped place c ++ word, depth)
        | .endMark _, '$' => return .inl (word.push c quoted, depth)
        | _, '$' => return .inl ((← readDollar n quoted) :: word, depth)
        | _, '\'' =>
            if quoted then return .inl (word.push c true, depth)
            else return .inl (.literal (← singleQuoted) true :: word, depth)
        | .hereText, '"' => return .inl (word.push c true, depth)
        | _, '"' =>
            let inside ← n.word (if place = .endMark false then .endMark true else .quotes)
            let inside := if inside.isEmpty then [.literal "" true] else inside
            return .inl (inside.reverse ++ word, depth)
        | _, c =>
            if c = graveAccent ∧ !(place matches .endMark _) then
              return .inl ((← readOlder n quoted) :: word, depth)
            else return .inl (word.push c quoted, depth)

def read (n : Nested) (place : Surroundings) : Reader Word :=
  Reader.repeated ([], 0) fun (word, depth) => step n place word depth

def plain? (word : Word) : Option String :=
  match word with
  | [.literal text false] => some text
  | _ => none

def isQuoted (word : Word) : Bool :=
  word.any fun
    | .literal _ quoted => quoted
    | _ => false

def asEndMark (word : Word) : String :=
  String.join (word.map fun
    | .literal text _ => text
    | _ => "")

def assignment? (word : Word) : Option (String × Word) :=
  match word with
  | .literal text false :: rest =>
      let name := text.toList.takeWhile (· ≠ '=')
      match text.toList.drop name.length with
      | [] => none
      | _ :: value =>
          if isName (String.ofList name) then
            let value := String.ofList value
            some (String.ofList name, if value = "" then rest else .literal value false :: rest)
          else none
  | _ => none

end Word

end ProxyTunnel.Shell
