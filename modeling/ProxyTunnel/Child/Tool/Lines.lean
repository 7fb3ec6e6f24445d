import ProxyTunnel.Child.FileCheck
import ProxyTunnel.Child.Tool.Basic
import ProxyTunnel.Child.Tool.Regex

/-!
The tools that pass on texts line by line or as a whole.
-/

set_option autoImplicit false

namespace ProxyTunnel.Tool

def column (width n : Nat) : String :=
  let digits := toString n
  String.ofList (List.replicate (width - digits.length) ' ') ++ digits

def visible (tabsToo : Bool) (c : Char) : String :=
  let n := c.toNat
  if c = '\t' then (if tabsToo then "^I" else "\t")
  else if c = '\n' then "\n"
  else if n < 32 then String.ofList ['^', Char.ofNat (n + 64)]
  else if n = 127 then "^?"
  else if n < 127 then String.singleton c
  else if n < 160 then "M-^" ++ String.singleton (Char.ofNat (n - 64))
  else if n = 255 then "M-^?"
  else "M-" ++ String.singleton (Char.ofNat (n - 128))

def catLine (o : Options) (state : Nat × Bool × String) (line : String) : Nat × Bool × String :=
  let (number, afterEmpty, shown) := state
  let isEmpty := line = "\n"
  if o.has 's' && isEmpty && afterEmpty then state
  else
    let numbered := (o.has 'b' && !isEmpty) || (o.has 'n' && !o.has 'b')
    let tabs := o.has 'T' || o.has 'A' || o.has 't'
    let body :=
      if o.has 'v' || o.has 'A' || o.has 'e' || o.has 't' then
        String.join (line.toList.map (visible tabs))
      else if tabs then line.replace "\t" "^I"
      else line
    let body := if o.has 'E' || o.has 'A' || o.has 'e' then body.replace "\n" "$\n" else body
    let front := if numbered then column 6 number ++ "\t" else ""
    (if numbered then number + 1 else number, isEmpty, shown ++ front ++ body)

def cat (r : Request) : Act PUnit := do
  let o ← Act.options r (Options.form "nbsETAvetu" "" [("number", 'n'), ("show-all", 'A'),
    ("number-nonblank", 'b'), ("squeeze-blank", 's'), ("show-ends", 'E'), ("show-tabs", 'T')]) 1
  let mut state := (1, false, "")
  for path in if o.operands.isEmpty then ["-"] else o.operands do
    match ← Act.readFile r path with
    | .error fault => Act.complain r (quoteIfNeeded path ++ ": " ++ fault.text) 1
    | .ok text =>
        if o.given.all fun (c, _) => c == 'u' then Act.print text
        else
          let (number, afterEmpty, shown) :=
            (fullLines text).foldl (catLine o) (state.1, state.2.1, "")
          Act.print shown
          state := (number, afterEmpty, "")

def withCount (arguments : List String) : List String :=
  match arguments with
  | first :: rest =>
      match first.toList with
      | '-' :: c :: cs => if c.isDigit then "-n" :: String.ofList (c :: cs) :: rest else arguments
      | _ => arguments
  | [] => []

def signedCount? (text : String) : Option (Char × Nat) :=
  match text.toList with
  | '-' :: cs => (count? (String.ofList cs)).map ('-', ·)
  | '+' :: cs => (count? (String.ofList cs)).map ('+', ·)
  | _ => (count? text).map (' ', ·)

def firstOf {α : Type} (count : Char × Nat) (xs : List α) : List α :=
  if count.1 = '-' then xs.take (xs.length - count.2) else xs.take count.2

def lastOf {α : Type} (count : Char × Nat) (xs : List α) : List α :=
  if count.1 = '+' then xs.drop (count.2 - 1) else xs.drop (xs.length - count.2)

def showParts (r : Request) (isHead : Bool) : Act PUnit := do
  let r := { r with arguments := withCount r.arguments }
  let o ← Act.options r (Options.form "qvf" "nc" [("lines", 'n'), ("bytes", 'c'), ("quiet", 'q'),
    ("verbose", 'v')]) 1
  let letter := if o.has 'c' then 'c' else 'n'
  let text := (o.value? letter).getD "10"
  let unit := if letter = 'c' then "bytes" else "lines"
  match signedCount? text with
  | none => Act.fail r ("invalid number of " ++ unit ++ ": " ++ cite text) 1
  | some count =>
      let cut {α : Type} (xs : List α) : List α :=
        if isHead then firstOf count xs else lastOf count xs
      let titled := (o.operands.length > 1 || o.has 'v') && !o.has 'q'
      let mut first := true
      for path in if o.operands.isEmpty then ["-"] else o.operands do
        match ← Act.readFile r path with
        | .error .isDirectory =>
            Act.complain r ("error reading " ++ quote path ++ ": Is a directory") 1
        | .error fault =>
            Act.complain r ("cannot open " ++ quote path ++ " for reading: " ++ fault.text) 1
        | .ok text =>
            if titled then
              let name := if path = "-" then "standard input" else path
              Act.print ((if first then "" else "\n") ++ "==> " ++ name ++ " <==\n")
            first := false
            if letter = 'c' then Act.print (String.ofList (cut text.toList))
            else Act.print (String.join (cut (fullLines text)))

def wordCount (text : String) : Nat :=
  (text.toList.foldl
    (fun (count, inside) c =>
      let blank := c == ' ' || (9 ≤ c.toNat && c.toNat ≤ 13)
      (if !blank && !inside then count + 1 else count, !blank))
    (0, false)).1

def wc (r : Request) : Act PUnit := do
  let o ← Act.options r (Options.form "lwcmL" "" [("lines", 'l'), ("words", 'w'), ("bytes", 'c'),
    ("chars", 'm')]) 1
  let letters := "lwmcL".toList.filter o.has
  let letters := if letters.isEmpty then ['l', 'w', 'c'] else letters
  let counts (text : String) : List Nat :=
    letters.map fun
      | 'l' => (text.toList.filter (· = '\n')).length
      | 'w' => wordCount text
      | 'L' => (Raw.lines text).foldl (fun n line => max n line.length) 0
      | _ => text.length
  let mut found := []
  for path in if o.operands.isEmpty then ["-"] else o.operands do
    match ← Act.readFile r path with
    | .ok text => found := found ++ [(path, text)]
    | .error fault =>
        Act.complain r (Act.unreadable path fault) 1
        if fault = .isDirectory then found := found ++ [(path, "")]
  let tree ← Act.tree
  let isOpenEnded (path : String) : Bool := path = "-" || FileCheck.holds tree 'd' path
  let total := found.foldl (fun n (_, text) => n + text.length) 0
  let width :=
    if letters.length = 1 ∧ o.operands.length ≤ 1 then 1
    else if (o.operands.isEmpty && !r.inputIsFile) || o.operands.any isOpenEnded then 7
    else (toString total).length
  let line (name : String) (numbers : List Nat) : String :=
    " ".intercalate (numbers.map (column width)) ++ (if name = "" then "" else " " ++ name) ++ "\n"
  for (path, text) in found do
    Act.print (line (if o.operands.isEmpty then "" else path) (counts text))
  if o.operands.length > 1 then
    let sum := found.foldl (fun sums (_, text) => List.zipWith (· + ·) sums (counts text))
      (letters.map fun _ => 0)
    Act.print (line "total" sum)

def trSet : Nat → List Char → List Char
  | 0, _ | _, [] => []
  | n + 1, '[' :: ':' :: rest =>
      let name := rest.takeWhile Char.isAlpha
      match rest.drop name.length with
      | ':' :: ']' :: rest =>
          (List.range 256).filterMap (fun k =>
            let c := Char.ofNat k
            if isInClass (String.ofList name) c then some c else none) ++ trSet n rest
      | _ => '[' :: trSet n (':' :: rest)
  | n + 1, '\\' :: c :: rest =>
      let plain : Char × List Char :=
        match c with
        | 'n' => ('\n', rest)
        | 't' => ('\t', rest)
        | 'r' => ('\r', rest)
        | 'a' => (Char.ofNat 7, rest)
        | 'b' => (Char.ofNat 8, rest)
        | 'f' => (Char.ofNat 12, rest)
        | 'v' => (Char.ofNat 11, rest)
        | c =>
            let digits := ((c :: rest).take 3).takeWhile fun d => '0' ≤ d && d ≤ '7'
            if digits.isEmpty then (c, rest)
            else
              (Char.ofNat (digits.foldl (fun n d => 8 * n + (d.toNat - 48)) 0 % 256),
                (c :: rest).drop digits.length)
      plain.1 :: trSet n plain.2
  | n + 1, low :: '-' :: high :: rest =>
      if low ≤ high then
        (List.range (high.toNat - low.toNat + 1)).map (fun k => Char.ofNat (low.toNat + k))
          ++ trSet n rest
      else low :: '-' :: trSet n (high :: rest)
  | n + 1, c :: rest => c :: trSet n rest

def squeeze (set : Char → Bool) (cs : List Char) : List Char :=
  (cs.foldl
    (fun kept c =>
      match kept with
      | d :: _ => if c == d && set c then kept else c :: kept
      | [] => [c])
    []).reverse

def tr (r : Request) : Act PUnit := do
  let o ← Act.options r ⟨"cCdst".toList, [], [("complement", 'c'), ("delete", 'd'),
    ("squeeze-repeats", 's'), ("truncate-set1", 't')], false⟩ 1
  let complement := o.has 'c' || o.has 'C'
  let set (text : String) : List Char := trSet (text.length + 1) text.toList
  let text ← do
    match o.operands with
    | [] => Act.misuse r "missing operand" 1
    | [only] =>
        if !o.has 'd' && !o.has 's' then
          Act.misuse r ("missing operand after " ++ cite only
            ++ "\nTwo strings must be given when translating.") 1
        else Act.readInput r
    | _ => Act.readInput r
  match text with
  | .error fault => Act.fail r ("read error: " ++ fault.text) 1
  | .ok text =>
      let first := set (o.operands.headD "")
      let first :=
        if complement then
          (List.range 256).filterMap fun k =>
            if first.contains (Char.ofNat k) then none else some (Char.ofNat k)
        else first
      let second := set (o.operands.getD 1 "")
      let cs := text.toList
      let cs := if o.has 'd' then cs.filter fun c => !first.contains c else cs
      let table := first.zipIdx.reverse
      let cs :=
        if o.has 'd' || second.isEmpty then cs
        else cs.map fun c =>
          match table.lookup c with
          | some k => second.getD k (second.getLastD c)
          | none => c
      let squeezed := if second.isEmpty then first else second
      let cs := if o.has 's' then squeeze squeezed.contains cs else cs
      Act.print (String.ofList cs)

def positions? (text : String) : Option (Nat → Bool) :=
  let ranges := (Raw.splitAt ',' text).map fun part =>
    match Raw.splitAt '-' part with
    | [one] => ((count? one).filter (0 < ·)).map fun n => (n, some n)
    | [low, high] =>
        let low? := if low = "" then some 1 else (count? low).filter (0 < ·)
        let high? := if high = "" then some none else (count? high).map some
        match low?, high? with
        | some low, some high => if part = "-" then none else some (low, high)
        | _, _ => none
    | _ => none
  if ranges.all Option.isSome && !ranges.isEmpty then
    let found := ranges.filterMap id
    some fun n => found.any fun (low, high) => decide (low ≤ n) && high.all fun m => decide (n ≤ m)
  else none

def cut (r : Request) : Act PUnit := do
  let o ← Act.options r (Options.form "sn" "fdcbO" [("fields", 'f'), ("delimiter", 'd'),
    ("characters", 'c'), ("bytes", 'b'), ("only-delimited", 's'), ("output-delimiter", 'O')]) 1
  let delimiter := ((o.value? 'd').getD "\t").toList.headD '\t'
  let joint := (o.value? 'O').getD (String.singleton delimiter)
  let text := ((o.value? 'f').or (o.value? 'c')).or (o.value? 'b')
  match text with
  | none => Act.misuse r "you must specify a list of bytes, characters, or fields" 1
  | some list =>
      if ((o.value? 'd').getD "").length > 1 then
        Act.misuse r "the delimiter must be a single character" 1
      match positions? list with
      | none =>
          if (Raw.splitAt ',' list).any fun part => part = "0" || Raw.begins part "0-" then
            Act.misuse r (if o.has 'f' then "fields are numbered from 1"
              else "byte/character positions are numbered from 1") 1
          else Act.misuse r ("invalid field value " ++ cite list) 1
      | some chosen =>
          let keep {α : Type} (xs : List α) : List α :=
            (xs.zipIdx 1).filterMap fun (x, n) => if chosen n then some x else none
          for (_, text) in ← Act.readFiles r o.operands Act.unreadable do
            for line in Raw.lines text do
              if o.has 'f' then
                match Raw.splitAt delimiter line with
                | [_] => if !o.has 's' then Act.print (line ++ "\n")
                | parts => Act.print (joint.intercalate (keep parts) ++ "\n")
              else Act.print (String.ofList (keep line.toList) ++ "\n")

def leadingNumber (line : String) : Int :=
  let cs := line.toList.dropWhile fun c => c == ' ' || c == '\t'
  let (negative, cs) :=
    match cs with
    | '-' :: rest => (true, rest)
    | rest => (false, rest)
  let whole := cs.takeWhile Char.isDigit
  let places :=
    match cs.drop whole.length with
    | '.' :: rest => ((rest.takeWhile Char.isDigit) ++ ['0', '0', '0']).take 3
    | _ => ['0', '0', '0']
  let n : Nat := (whole ++ places).foldl (fun n c => 10 * n + (c.toNat - 48)) 0
  if negative then -(n : Int) else n

def sortKey (o : Options) (line : String) : String :=
  match o.value? 'k' with
  | none => line
  | some text =>
      let first := ((Raw.splitAt ',' text).headD "1").toList.takeWhile Char.isDigit
      let first := ((count? (String.ofList first)).getD 1) - 1
      let last := ((Raw.splitAt ',' text)[1]?).bind fun t =>
        count? (String.ofList (t.toList.takeWhile Char.isDigit))
      let parts :=
        match o.value? 't' with
        | some t => Raw.splitAt (t.toList.headD ' ') line
        | none => (Raw.splitAt ' ' line).filter (· ≠ "")
      let parts := parts.drop first
      let parts := (last.map fun n => parts.take (n - first)).getD parts
      " ".intercalate parts

def sort (r : Request) : Act PUnit := do
  let o ← Act.options r (Options.form "nrufbsdhVg" "kto" [("numeric-sort", 'n'), ("reverse", 'r'),
    ("unique", 'u'), ("ignore-case", 'f'), ("key", 'k'), ("field-separator", 't')]) 2
  let keyLetters := ((o.value? 'k').getD "").toList
  let has (c : Char) : Bool := o.has c || keyLetters.contains c
  let mut found := []
  for path in if o.operands.isEmpty then ["-"] else o.operands do
    match ← Act.readFile r path with
    | .ok text => found := found ++ [(path, text)]
    | .error .isDirectory =>
        Act.fail r ("read failed: " ++ quoteIfNeeded path ++ ": Is a directory") 2
    | .error fault => Act.fail r ("cannot read: " ++ quoteIfNeeded path ++ ": " ++ fault.text) 2
  let lines := found.flatMap fun (_, text) => Raw.lines text
  let key (line : String) : String :=
    let k := sortKey o line
    if has 'f' then k.toUpper else k
  let before (a b : String) : Bool :=
    if has 'n' then decide (leadingNumber (key a) < leadingNumber (key b))
    else decide (key a < key b)
  let less (a b : String) : Bool :=
    if before a b then true else if before b a then false
    else !o.has 'u' && !o.has 's' && decide (a < b)
  let sorted := lines.mergeSort fun a b => if has 'r' then !(less a b) || a == b else !(less b a)
  let sorted :=
    if o.has 'u' then
      (sorted.foldl
        (fun kept line =>
          match kept with
          | last :: _ => if !before last line && !before line last then kept else line :: kept
          | [] => [line])
        []).reverse
    else sorted
  Act.print (String.join (sorted.map (· ++ "\n")))

def uniq (r : Request) : Act PUnit := do
  let o ← Act.options r (Options.form "cdui" "fsw" [("count", 'c'), ("repeated", 'd'),
    ("unique", 'u'), ("ignore-case", 'i')]) 1
  let wording (path : String) (fault : PathFault) : String :=
    if fault = .isDirectory then "error reading " ++ quote path ++ ": " ++ fault.text
    else Act.unreadable path fault
  for (_, text) in ← Act.readFiles r (o.operands.take 1) wording do
    let same (a b : String) : Bool := if o.has 'i' then a.toLower == b.toLower else a == b
    let groups := ((Raw.lines text).foldl
      (fun groups line =>
        match groups with
        | (first, count) :: rest =>
            if same first line then (first, count + 1) :: rest else (line, 1) :: groups
        | [] => [(line, 1)])
      ([] : List (String × Nat))).reverse
    for (line, count) in groups do
      if (!o.has 'd' || 1 < count) && (!o.has 'u' || count == 1) then
        Act.print ((if o.has 'c' then column 7 count ++ " " else "") ++ line ++ "\n")

def tac (r : Request) : Act PUnit := do
  for path in if r.arguments.isEmpty then ["-"] else r.arguments do
    match ← Act.readFile r path with
    | .ok text => Act.print (String.join (fullLines text).reverse)
    | .error .isDirectory =>
        Act.complain r (quoteIfNeeded path ++ ": read error: Invalid argument") 1
    | .error fault =>
        Act.complain r ("failed to open " ++ quote path ++ " for reading: " ++ fault.text) 1

def rev (r : Request) : Act PUnit := do
  for path in if r.arguments.isEmpty then ["-"] else r.arguments do
    match ← Act.readFile r path with
    | .ok text =>
        for line in Raw.lines text do
          Act.print (String.ofList line.toList.reverse ++ "\n")
    | .error .isDirectory => Act.complain r (path ++ ": Is a directory") 1
    | .error fault => Act.complain r ("cannot open " ++ path ++ ": " ++ fault.text) 1

def tee (r : Request) : Act PUnit := do
  let o ← Act.options r (Options.form "ai" "" [("append", 'a')]) 1
  match ← Act.readInput r with
  | .error fault => Act.fail r ("read error: " ++ fault.text) 1
  | .ok text =>
      Act.print text
      for path in o.operands do
        let tree ← Act.tree
        match World.standardFd? path, tree.openForWriting (Raw.toBytes path) with
        | some 1, _ => Act.print text
        | some 2, _ => Act.mutter text
        | _, .error fault => Act.complain r (quoteIfNeeded path ++ ": " ++ fault.text) 1
        | _, .ok (place, tree) =>
            let old := if o.has 'a' then tree.contents place else []
            Act.setTree (tree.setContents place (old ++ Raw.toBytes text))

def yes (r : Request) : Act PUnit := do
  let line := (if r.arguments.isEmpty then "y" else " ".intercalate r.arguments) ++ "\n"
  Act.print (String.join (List.replicate 4096 line))

def matchingParts (ignoreCase : Bool) (regex : Regex) : Nat → Regex.Cursor → List String
  | 0, _ => []
  | n + 1, k =>
      match Regex.find ignoreCase regex (k.rest.length + 1) k with
      | none => []
      | some (start, stop) =>
          match start.rest.take (start.rest.length - stop.rest.length), stop.rest with
          | [], [] => []
          | [], c :: rest => matchingParts ignoreCase regex n (stop.step c rest)
          | part, _ => String.ofList part :: matchingParts ignoreCase regex n stop

def grep (r : Request) : Act PUnit := do
  let o ← Act.options r (Options.form "EFGivcnqoxwshHlLra" "em" [("quiet", 'q'), ("silent", 'q'),
    ("invert-match", 'v'), ("ignore-case", 'i'), ("count", 'c'), ("line-number", 'n'),
    ("only-matching", 'o'), ("line-regexp", 'x'), ("word-regexp", 'w'), ("extended-regexp", 'E'),
    ("fixed-strings", 'F'), ("regexp", 'e')]) 2
  let given := (o.given.filter fun (c, _) => c == 'e').map (·.2)
  let (texts, paths) :=
    if given.isEmpty then (o.operands.take 1, o.operands.drop 1) else (given, o.operands)
  if texts.isEmpty then
    Act.mutter ("Usage: " ++ r.name ++ " [OPTION]... PATTERNS [FILE]...\nTry '" ++ r.name
      ++ " --help' for more information.\n")
    throw (.status 2)
  let texts := texts.flatMap (Raw.splitAt '\n')
  let readOne (text : String) : Option Regex :=
    if o.has 'F' then some (.ofText text) else Regex.read? (o.has 'E') text
  match texts.mapM readOne with
  | none =>
      let group := if o.has 'E' then "(" else "\\("
      let hasGroup (text : String) : Bool := (text.splitOn group).length ≠ 1
      let problem :=
        if texts.any hasGroup then "Unmatched ( or \\(" else "Invalid regular expression"
      Act.fail r problem 2
  | some regexes =>
      let wrap (a : Regex) : Regex :=
        if o.has 'x' then .sequence .lineStart (.sequence a .lineEnd)
        else if o.has 'w' then .sequence .wordEdge (.sequence a .wordEdge)
        else a
      let regex := match regexes.map wrap with
        | [] => Regex.empty
        | a :: rest => rest.foldl Regex.either a
      let titled := (1 < paths.length || o.has 'H') && !o.has 'h'
      let mut any := false
      for path in if paths.isEmpty then ["-"] else paths do
        match ← Act.readFile r path with
        | .error fault =>
            if !o.has 's' then Act.complain r (path ++ ": " ++ fault.text) 2
            else Act.setStatus 2
        | .ok text =>
            let name := if path = "-" then "(standard input)" else path
            let title := if titled then name ++ ":" else ""
            let chosen := ((Raw.lines text).zipIdx 1).filter fun (line, _) =>
              (Regex.search (o.has 'i') regex line.toList).isSome != o.has 'v'
            if !chosen.isEmpty then any := true
            if o.has 'q' then pure ()
            else if o.has 'l' then
              if !chosen.isEmpty then Act.print (name ++ "\n")
            else if o.has 'c' then Act.print (title ++ toString chosen.length ++ "\n")
            else
              for (line, number) in chosen do
                let front := title ++ (if o.has 'n' then toString number ++ ":" else "")
                if o.has 'o' then
                  for part in matchingParts (o.has 'i') regex (line.length + 1)
                      ⟨[], line.toList, []⟩ do
                    Act.print (front ++ part ++ "\n")
                else Act.print (front ++ line ++ "\n")
      let w ← get
      if any && (w.status = 0 || o.has 'q') then Act.setStatus 0
      else if w.status = 0 then Act.setStatus 1

end ProxyTunnel.Tool
