import ProxyTunnel.Child.Shell.Word

/-!
The grammar of scripts: tokens, simple and compound commands, and lists of them. A script is read
line by line, so that what stands before a mistake can still be run.
-/

set_option autoImplicit false

namespace ProxyTunnel.Shell

namespace Token

def readArrow : Reader (Nat × Arrow) := do
  match ← Reader.take with
  | some '>' =>
      if ← Reader.accept '>' then return (1, .to .append)
      else if ← Reader.accept '|' then return (1, .to .replacement)
      else if ← Reader.accept '&' then return (1, .to .duplicate)
      else return (1, .to .output)
  | _ =>
      if ← Reader.accept '<' then return (0, .here (← Reader.accept '-'))
      else if ← Reader.accept '&' then return (0, .to .duplicate)
      else if ← Reader.accept '>' then return (0, .to .inputOutput)
      else return (0, .to .input)

def isArrow (c : Option Char) : Bool := c == some '<' || c == some '>'

def readWord (n : Nested) (place : Surroundings) : Reader Token := do
  let word ← Word.read n place
  let plain := Word.plain? word
  match plain.map (·.toList) with
  | some [c] =>
      if c.isDigit && isArrow (← Reader.peek) then
        let (_, arrow) ← readArrow
        return .redirection (c.toNat - '0'.toNat) arrow
      else return .word word plain false
  | _ => return .word word plain (Word.isQuoted word)

def skipGap : Reader Unit :=
  Reader.repeated false fun comment => do
    match ← if comment then Reader.peek else Reader.peekJoined with
    | none | some '\n' => return .inr ()
    | some c =>
        if comment || c == ' ' || c == '\t' then
          Reader.skip
          return .inl comment
        else if c == '#' then return .inl true
        else return .inr ()

def takeFeed : Reader Token := do
  Reader.skip
  modify fun source => { source with line := source.line + source.taken, taken := 0 }
  return .newline

-- Reads the next token from the text; a word may stand in particular surroundings.
def scan (n : Nested) (place : Surroundings) : Reader Token := do
  skipGap
  let one (token : Token) : Reader Token := do
    Reader.skip
    return token
  let twice (c : Char) (single double : Token) : Reader Token := do
    Reader.skip
    return if ← Reader.accept c then double else single
  match ← Reader.peek with
  | none => return .endOfFile
  | some '\n' => takeFeed
  | some '(' => one .opening
  | some ')' => one .closing
  | some ';' => twice ';' .semicolon .endOfCase
  | some '&' => twice '&' .ampersand .both
  | some '|' => twice '|' .pipe .either
  | some c =>
      if isArrow (some c) then
        let (fd, arrow) ← readArrow
        return .redirection fd arrow
      else readWord n place

def nextRaw (n : Nested) : Reader Token := do
  match (← get).pushed with
  | some token =>
      modify fun source => { source with pushed := none }
      return token
  | none => scan n .bare

structure Lookout where
  keywords : Bool
  aliases : Bool
  lines : Bool
deriving DecidableEq, Repr

namespace Lookout

def nothing : Lookout := ⟨false, false, false⟩

def command : Lookout := ⟨true, true, false⟩

def fresh : Lookout := ⟨true, true, true⟩

def pattern : Lookout := ⟨true, false, true⟩

def name : Lookout := ⟨false, true, false⟩

end Lookout

def next (n : Nested) (wanted : Lookout) : Reader Token :=
  Reader.repeated wanted.aliases fun aliases => do
    let source ← get
    let before := if source.insertions.isEmpty then 0 else source.rest.length
    let token ← nextRaw n
    let source ← get
    let aliases := aliases || source.hasPassedBlank before
    match token with
    | .newline => return if wanted.lines then .inl aliases else .inr token
    | .word _ (some text) false =>
        if wanted.keywords && keywords.contains text then return .inr (.keyword text)
        else
          match if aliases then source.meaning? text else none with
          | some meaning =>
              set (source.insert text meaning)
              return .inl aliases
          | none => return .inr token
    | _ => return .inr token

end Token

namespace Command

-- What comes behind the end of the current line; a line feed in a word does not end it.
def afterLine (n : Nested) (source : Source) : Source :=
  let search : Reader Unit := Reader.repeated () fun _ => do
    match ← Token.scan n .bare with
    | .newline | .endOfFile => return .inr ()
    | _ => return .inl ()
  match search.run source with
  | .ok (_, below) => below
  | .error _ => { source with rest := [] }

def readHereText (n : Nested) (mark : String) (dropTabs quoted : Bool) : Reader Word := do
  let source ← get
  let below := afterLine n source
  let current := source.rest.take (source.rest.length - below.rest.length)
  set (Source.startLine { below with mark := some (mark.toList, dropTabs), beyond := [] })
  let word ←
    if quoted then do pure [.literal (← Reader.takeAll) true]
    else n.word .hereText
  let after ← get
  let taken := source.taken + (after.line - below.line)
  set { source with rest := current ++ after.beyond, taken }
  return word

def readTarget (n : Nested) (fd : Nat) (arrow : Arrow) : Reader Redirection := do
  match arrow with
  | .to direction =>
      match ← Token.next n .nothing with
      | .word word _ _ => return .mk fd direction word
      | found => Reader.unexpected found none
  | .here dropTabs =>
      match ← Token.scan n (.endMark false) with
      | .word word _ quoted =>
          return .mk fd .text (← readHereText n (Word.asEndMark word) dropTabs quoted)
      | found => Reader.unexpected found none

-- The redirections at hand. Where there is none, a keyword may come next.
def readRedirections (n : Nested) : Reader (List Redirection) :=
  Reader.repeated [] fun redirections => do
    match ← Token.next n (if redirections.isEmpty then .command else .nothing) with
    | .redirection fd arrow => return .inl ((← readTarget n fd arrow) :: redirections)
    | token =>
        Reader.pushBack token
        return .inr redirections.reverse

def specialBuiltins : List String :=
  [".", ":", "break", "continue", "eval", "exec", "exit", "export", "local", "readonly", "return",
    "set", "shift", "times", "trap", "unset"]

structure Draft where
  assignments : List (String × Word)
  words : List Word
  redirections : List Redirection

def readDefinition (n : Nested) (name : Word) : Reader Command := do
  match ← Token.next n .nothing with
  | .closing =>
      match Word.plain? name with
      | some text =>
          if isName text && !specialBuiltins.contains text then
            let token ← Token.next n .fresh
            Reader.pushBack token
            return .define text (← n.command)
          else Reader.complain "Bad function name"
      | none => Reader.complain "Bad function name"
  | found => Reader.unexpected found (some .closing)

def readSimple (n : Nested) (line : Nat) : Reader Command :=
  Reader.repeated (⟨[], [], []⟩ : Draft) fun d => do
    match ← Token.next n (if d.words.isEmpty then .name else .nothing) with
    | .word word _ _ =>
        match d.words, Word.assignment? word with
        | [], some a => return .inl { d with assignments := a :: d.assignments }
        | words, _ => return .inl { d with words := word :: words }
    | .redirection fd arrow =>
        let redirection ← readTarget n fd arrow
        return .inl { d with redirections := redirection :: d.redirections }
    | token =>
        match token, d.assignments, d.words, d.redirections with
        | .opening, [], [name], [] => return .inr (← readDefinition n name)
        | _, _, _, _ =>
            Reader.pushBack token
            return .inr
              (.simple line d.assignments.reverse d.words.reverse d.redirections.reverse)

-- Takes a keyword. One that ends a list of commands has been seen as such before; any other may
-- stand behind line feeds.
def expect (n : Nested) (text : String) (isFresh : Bool) : Reader Unit := do
  match ← Token.next n (if isFresh then .fresh else .nothing) with
  | .keyword found =>
      if found = text then return ()
      else Reader.unexpected (.keyword found) (some (.keyword text))
  | found => Reader.unexpected found (some (.keyword text))

def orNothing (command : Option Command) : Command := command.getD (.sequence [])

def readList (n : Nested) : Reader Command := do return orNothing (← n.list false)

def readConditional (n : Nested) : Reader Command := do
  let branches : List (Command × Command) × Option Command ←
    Reader.repeated [] fun branches => do
      let condition ← readList n
      expect n "then" false
      let consequence ← readList n
      let branches := (condition, consequence) :: branches
      match ← Token.next n .nothing with
      | .keyword "elif" => return .inl branches
      | .keyword "else" => return .inr (branches, some (← readList n))
      | token =>
          Reader.pushBack token
          return .inr (branches, none)
  expect n "fi" false
  let (reversed, last) := branches
  let whole := reversed.foldl
    (fun alternative (condition, consequence) =>
      some (.conditional condition consequence alternative))
    last
  return orNothing whole

def readWords (n : Nested) : Reader (List Word) :=
  Reader.repeated [] fun words => do
    match ← Token.next n .nothing with
    | .word word _ _ => return .inl (word :: words)
    | .newline | .semicolon => return .inr words.reverse
    | found => Reader.unexpected found none

def allArguments : Word := [.parameter "@" .value true]

def readEach (n : Nested) (line : Nat) : Reader Command := do
  match ← Token.next n .nothing with
  | .word _ (some name) false =>
      if isName name then
        let words ← do
          match ← Token.next n .fresh with
          | .keyword "in" => readWords n
          | .semicolon => pure [allArguments]
          | token =>
              Reader.pushBack token
              pure [allArguments]
        expect n "do" true
        let body ← readList n
        expect n "done" false
        return .each line name words body
      else Reader.complain "Bad for loop variable"
  | _ => Reader.complain "Bad for loop variable"

def readPatterns (n : Nested) (first : Token) : Reader (List Word) := do
  let first ← match first with
    | .opening => Token.next n .nothing
    | token => pure token
  Reader.repeated (first, []) fun (token, words) => do
    let words ← match token with
      | .word word _ _ => pure (word :: words)
      | .keyword text => pure ([.literal text false] :: words)
      | _ => pure ([.literal "" true] :: words)
    match ← Token.next n .nothing with
    | .pipe => return .inl (← Token.next n .nothing, words)
    | .closing => return .inr words.reverse
    | found => Reader.unexpected found (some .closing)

def readChoice (n : Nested) (line : Nat) : Reader Command := do
  match ← Token.next n .nothing with
  | .word word _ _ =>
      expect n "in" true
      let cases ← Reader.repeated [] fun cases => do
        match ← Token.next n .pattern with
        | .keyword "esac" => return .inr cases.reverse
        | token =>
            let patterns ← readPatterns n token
            let body ← n.list true
            let cases := (patterns, body) :: cases
            match ← Token.next n .pattern with
            | .keyword "esac" => return .inr cases.reverse
            | .endOfCase => return .inl cases
            | found => Reader.unexpected found (some .endOfCase)
      return .choice line word cases
  | found => Reader.unexpected found (some (.word [] none false))

def readLoop (n : Nested) (whileFailing : Bool) : Reader Command := do
  let condition ← readList n
  expect n "do" false
  let body ← readList n
  expect n "done" false
  return .loop whileFailing condition body

def withRedirections (n : Nested) (line : Nat) (command : Command) : Reader Command := do
  match ← readRedirections n with
  | [] => return command
  | redirections => return .redirected line command redirections

def read (n : Nested) : Reader Command := do
  let line := (← get).line
  match ← Token.next n .command with
  | .keyword "if" => withRedirections n line (← readConditional n)
  | .keyword "while" => withRedirections n line (← readLoop n false)
  | .keyword "until" => withRedirections n line (← readLoop n true)
  | .keyword "for" => withRedirections n line (← readEach n line)
  | .keyword "case" => withRedirections n line (← readChoice n line)
  | .keyword "\x7b" =>
      let body ← readList n
      expect n "\x7d" false
      withRedirections n line body
  | .opening =>
      let body ← readList n
      match ← Token.next n .nothing with
      | .closing => withRedirections n line (.subshell body)
      | found => Reader.unexpected found (some .closing)
  | .word word plain quoted =>
      Reader.pushBack (.word word plain quoted)
      readSimple n line
  | .redirection fd arrow =>
      Reader.pushBack (.redirection fd arrow)
      readSimple n line
  | found => Reader.unexpected found none

def readPipeline (n : Nested) : Reader Command := do
  let negated ← do
    match ← Token.next n .nothing with
    | .keyword "!" =>
        Reader.pushBack (← Token.next n .command)
        pure true
    | token =>
        Reader.pushBack token
        pure false
  let first ← read n
  let stages ← Reader.repeated [first] fun stages => do
    match ← Token.next n .nothing with
    | .pipe =>
        let token ← Token.next n .fresh
        Reader.pushBack token
        return .inl ((← read n) :: stages)
    | token =>
        Reader.pushBack token
        return .inr stages.reverse
  let command : Command :=
    match stages with
    | [command] => command
    | stages => .pipeline stages
  return if negated then .negation command else command

def readChain (n : Nested) : Reader Command := do
  Reader.repeated (← readPipeline n) fun left => do
    let following : Reader Command := do
      let token ← Token.next n .fresh
      Reader.pushBack token
      readPipeline n
    match ← Token.next n .nothing with
    | .both => return .inl (.both left (← following))
    | .either => return .inl (.either left (← following))
    | token =>
        Reader.pushBack token
        return .inr left

def ofReversed : List Command → Option Command
  | [] => none
  | [command] => some command
  | commands => some (.sequence commands.reverse)

def readNestedList (n : Nested) (mayBeEmpty : Bool) : Reader (Option Command) :=
  Reader.repeated ([], mayBeEmpty) fun (commands, mayEnd) => do
    let token ← Token.next n .fresh
    Reader.pushBack token
    if token.endsList && (mayEnd || token matches .endOfFile) then return .inr (ofReversed commands)
    else
      let command ← readChain n
      match ← Token.next n .nothing with
      | .ampersand => return .inl (.background command :: commands, true)
      | .semicolon => return .inl (command :: commands, true)
      | .newline => return .inl (command :: commands, true)
      | token =>
          Reader.pushBack token
          return .inr (ofReversed (command :: commands))

def readLine (n : Nested) : Reader (Option Command) :=
  Reader.repeated [] fun commands => do
    match ← Token.next n .command with
    | .newline => return .inr (ofReversed commands)
    | .endOfFile =>
        Reader.pushBack .endOfFile
        return .inr (ofReversed commands)
    | token =>
        Reader.pushBack token
        let command ← readChain n
        match ← Token.next n .nothing with
        | .ampersand => return .inl (.background command :: commands)
        | .semicolon => return .inl (command :: commands)
        | .newline => return .inr (ofReversed (command :: commands))
        | .endOfFile =>
            Reader.pushBack .endOfFile
            return .inr (ofReversed (command :: commands))
        | found => Reader.unexpected found none

end Command

def Nested.ofDepth : Nat → Nested
  | 0 =>
      let tooDeep {α : Type} : Reader α := Reader.complain "text too deep"
      ⟨fun _ => tooDeep, fun _ => tooDeep, tooDeep⟩
  | depth + 1 =>
      let n := Nested.ofDepth depth
      ⟨Word.read n, Command.readNestedList n, Command.read n⟩

def maxDepth : Nat := 1000

def Nested.standard : Nested := Nested.ofDepth maxDepth

inductive Line where
  | command (command : Option Command) (rest : Source)
  | mistake (complaint : Complaint)
  | finished

def Line.read (source : Source) : Line :=
  let ended :=
    match source.pushed with
    | some .endOfFile => true
    | _ => false
  if ended || source.rest.isEmpty then .finished
  else
    match (Command.readLine .standard).run source with
    | .error complaint => .mistake complaint
    | .ok (found, rest) => .command found rest

end ProxyTunnel.Shell
