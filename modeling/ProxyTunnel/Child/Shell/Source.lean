import ProxyTunnel.Child.Shell.Command

/-!
Reading a script: the text that is left, and what can be wrong with it.
-/

set_option autoImplicit false

namespace ProxyTunnel.Shell

inductive Arrow where
  | to (direction : Direction)
  -- A text that follows in the next lines, up to a word; leading tabs may be dropped.
  | here (dropTabs : Bool)
deriving DecidableEq, Repr

-- A unit of a script. A word that is written without quotes and expansions has a plain text.
inductive Token where
  | endOfFile
  | newline
  | semicolon
  | ampersand
  | both
  | either
  | pipe
  | opening
  | closing
  | endOfCase
  | redirection (fd : Nat) (arrow : Arrow)
  | word (word : Word) (plain : Option String) (quoted : Bool)
  | keyword (text : String)

def Token.name : Token → String
  | endOfFile => "end of file"
  | newline => "newline"
  | semicolon => "\";\""
  | ampersand => "\"&\""
  | both => "\"&&\""
  | either => "\"||\""
  | pipe => "\"|\""
  | opening => "\"(\""
  | closing => "\")\""
  | endOfCase => "\";;\""
  | redirection .. => "redirection"
  | word .. => "word"
  | keyword text => "\"" ++ text ++ "\""

def keywords : List String :=
  ["!", "case", "do", "done", "elif", "else", "esac", "fi", "for", "if", "in", "then", "until",
    "while", "\x7b", "\x7d"]

def closers : List String := ["do", "done", "elif", "else", "esac", "fi", "then", "\x7d"]

def Token.endsList : Token → Bool
  | endOfFile | closing | endOfCase => true
  | keyword text => closers.contains text
  | _ => false

structure Complaint where
  line : Nat
  text : String
deriving DecidableEq, Repr

structure Insertion where
  name : String
  -- How much of the script is left where the text ends.
  left : Nat
  -- Whether it ends in a blank, so that the word behind it may stand for another text too.
  opensNext : Bool
deriving DecidableEq, Repr

structure Source where
  rest : List Char
  line : Nat
  pushed : Option Token
  -- How many lines have been taken out behind the current one.
  taken : Nat
  -- The line before which the text ends, and whether tabs at the start of lines are dropped.
  mark : Option (List Char × Bool)
  beyond : List Char
  -- The words that stand for other texts where a command begins.
  aliases : List (String × String)
  insertions : List Insertion
  -- More than the number of steps that any part of the reading takes.
  limit : Nat

def Source.ofText (text : String) (line : Nat) : Source :=
  let cs := text.toList
  ⟨cs, line, none, 0, none, [], [], [], 2 * cs.length + 8⟩

def Source.withAliases (source : Source) (aliases : List (String × String)) : Source :=
  if aliases = source.aliases then source
  else
    let growth := aliases.foldl (fun n (_, text) => n + text.length) 0
    { source with aliases, limit := (2 * source.rest.length + 8) * (growth + 1) }

def Source.meaning? (source : Source) (name : String) : Option String :=
  match source.aliases.lookup name with
  | none => none
  | some text =>
      let left := source.rest.length
      if source.insertions.any fun i => i.name = name && i.left ≤ left then none else some text

def Source.insert (source : Source) (name text : String) : Source :=
  let left := source.rest.length
  let current := source.insertions.filter fun i => i.left ≤ left
  let opensNext := text.toList.getLast? == some ' ' || text.toList.getLast? == some '\t'
  { source with
    rest := text.toList ++ source.rest, insertions := ⟨name, left, opensNext⟩ :: current }

-- Whether a reader that has left so much of the script before has come out of an inserted text that
-- ends in a blank.
def Source.hasPassedBlank (source : Source) (before : Nat) : Bool :=
  let left := source.rest.length
  source.insertions.any fun i => i.opensNext && i.left ≤ before && left < i.left

def Source.startLine (source : Source) : Source :=
  match source.mark with
  | none => source
  | some (mark, dropTabs) =>
      let rest := if dropTabs then source.rest.dropWhile (· = '\t') else source.rest
      let line := rest.takeWhile (· ≠ '\n')
      if line = mark then
        { source with
          rest := [], beyond := (rest.drop line.length).drop 1, line := source.line + 1 }
      else { source with rest }

abbrev Reader := StateT Source (Except Complaint)

namespace Reader

def complain {α : Type} (text : String) : Reader α := do
  throw ⟨(← get).line, "Syntax error: " ++ text⟩

def unexpected {α : Type} (found : Token) (wanted : Option Token) : Reader α :=
  let hint := (wanted.map fun token => s!" (expecting {token.name})").getD ""
  complain (found.name ++ " unexpected" ++ hint)

def iterate {σ α : Type} (step : σ → Reader (σ ⊕ α)) :
    Nat → σ → Source → Except Complaint (α × Source)
  | 0, _, source => .error ⟨source.line, "Syntax error: text too long"⟩
  | n + 1, state, source =>
      match (step state).run source with
      | .error complaint => .error complaint
      | .ok (.inl state, source) => iterate step n state source
      | .ok (.inr result, source) => .ok (result, source)

def repeated {σ α : Type} (start : σ) (step : σ → Reader (σ ⊕ α)) : Reader α :=
  fun source => iterate step source.limit start source

def peek : Reader (Option Char) := do return (← get).rest.head?

def skip : Reader Unit :=
  modify fun source =>
    match source.rest with
    | [] => source
    | '\n' :: rest => { source with rest, line := source.line + 1 }.startLine
    | _ :: rest => { source with rest }

def take : Reader (Option Char) := do
  let c ← peek
  skip
  return c

def joinLines : Reader Unit :=
  repeated () fun _ => do
    match (← get).rest with
    | '\\' :: '\n' :: _ =>
        skip
        skip
        return .inl ()
    | _ => return .inr ()

def peekJoined : Reader (Option Char) := do
  joinLines
  peek

def accept (c : Char) : Reader Bool := do
  if (← peekJoined) = some c then
    skip
    return true
  else return false

def takeAll : Reader String :=
  repeated "" fun text => do
    match ← take with
    | some c => return .inl (text.push c)
    | none => return .inr text

def withoutMark {α : Type} (body : Reader α) : Reader α := do
  let mark := (← get).mark
  modify fun source => { source with mark := none }
  let result ← body
  modify fun source => { source with mark }
  return result

def takeWhile (p : Char → Bool) : Reader String :=
  repeated "" fun text => do
    match ← peekJoined with
    | some c =>
        if p c then
          skip
          return .inl (text.push c)
        else return .inr text
    | none => return .inr text

def pushBack (token : Token) : Reader Unit :=
  modify fun source => { source with pushed := some token }

end Reader

def isNameStart (c : Char) : Bool := c.isAlpha || c == '_'

def isNameChar (c : Char) : Bool := c.isAlphanum || c == '_'

def isName (text : String) : Bool :=
  match text.toList with
  | [] => false
  | c :: cs => isNameStart c && cs.all isNameChar

def isSpecial (c : Char) : Bool := c.isDigit || "!#$*-?@".toList.contains c

def graveAccent : Char := Char.ofNat 96

end ProxyTunnel.Shell
