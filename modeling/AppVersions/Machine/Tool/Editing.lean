-- The tool that edits a stream of lines by a script: which lines each command is for, and what it
-- does to the line at hand and to the one that is held.
import AppVersions.Machine.Tool.Call
import AppVersions.Machine.Tool.Regex

namespace AppVersions.Machine.Tool

/-! ## Scripts -/

/-- A line that a command is for. -/
inductive Address
  | line (n : Nat)
  | step (first width : Nat)
  | last
  | regex (r : Regex)
  | following (n : Nat)

/-- A part of what is put in the place of a match. -/
inductive Replacement
  | text (s : Bytes)
  | group (n : Nat)

inductive Edit
  | substitute (r : Regex) (parts : List Replacement) (everywhere : Bool) (nth : Nat)
      (prints : Bool)
  | exchange (source target : Bytes)
  | delete
  | deleteFirst
  | print
  | printFirst
  | number
  | quit (code : Nat) (prints : Bool)
  | next
  | nextBehind
  | hold (appends : Bool)
  | get (appends : Bool)
  | swap
  | append (s : Bytes)
  | insert (s : Bytes)
  | change (s : Bytes)
  | block (finish : Nat)
  | jump (label : Bytes) (onlyChanged : Bool)
  | label (name : Bytes)
  | nothing

/-- A command with the lines that it is for. -/
structure EditCommand where
  start : Option Address := none
  finish : Option Address := none
  isNegated : Bool := false
  edit : Edit

/-! ## Reading scripts -/

/-- What is wrong with a script. -/
structure EditFault where
  position : Nat
  message : String

/-- A text up to a delimiter that no backslash takes away; `inSet` tells that a set of characters is
open. -/
def delimited (d : Char) : Nat → Bytes → Bytes → Option (Bytes × Bytes)
  | 0, _, _ | _, _, [] => none
  | n + 1, done, c :: s =>
    if c = d then some (done.reverse, s)
    else
      match c, s with
      | '\\', e :: rest =>
        if e = d then delimited d n (e :: done) rest
        else delimited d n (e :: '\\' :: done) rest
      | c, s => delimited d n (c :: done) s

/-- What is put in the place of a match: an ampersand is the match, and numbers are groups. -/
def replacementOf : Nat → Bytes → List Replacement
  | 0, _ | _, [] => []
  | n + 1, '&' :: s => .group 0 :: replacementOf n s
  | n + 1, '\\' :: c :: s =>
    if c.isDigit then .group (c.toNat - '0'.toNat) :: replacementOf n s
    else
      let t := if c = 'n' then '\n' else if c = 't' then '\t' else c
      .text [t] :: replacementOf n s
  | n + 1, c :: s => .text [c] :: replacementOf n s

def skipGaps (s : Bytes) : Bytes := s.dropWhile fun c => c == ' ' || c == '\t'

/-- An address at the start of a text. -/
def address? (t : Notation) (s : Bytes) : Option (Option Address × Bytes) :=
  match s with
  | '$' :: rest => some (some .last, rest)
  | '/' :: rest => do
    let (p, rest) ← delimited '/' (rest.length + 1) [] rest
    let (ignoresCase, rest) := match rest with
      | 'I' :: rest => (true, rest)
      | rest => (t.ignoresCase, rest)
    let (r, _) ← Regex.ofText? { t with ignoresCase } p
    return (some (.regex r), rest)
  | '+' :: c :: rest =>
    if c.isDigit then
      let ds := (c :: rest).takeWhile Char.isDigit
      some (some (.following (Nat.ofDigitChars 10 ds 0)), (c :: rest).drop ds.length)
    else some (none, s)
  | c :: _ =>
    if c.isDigit then
      let ds := s.takeWhile Char.isDigit
      let n := Nat.ofDigitChars 10 ds 0
      match s.drop ds.length with
      | '~' :: rest =>
        let ws := rest.takeWhile Char.isDigit
        some (some (.step n (Nat.ofDigitChars 10 ws 0)), rest.drop ws.length)
      | rest => some (some (.line n), rest)
    else some (none, s)
  | [] => some (none, [])

/-- The text of a command that adds lines: the rest of its line, or the lines behind a backslash. -/
def addedText (s : Bytes) : Bytes × Bytes :=
  let s := skipGaps s
  let s := match s with
    | '\\' :: '\n' :: rest => rest
    | '\\' :: rest => skipGaps rest
    | s => s
  go s.length [] s
where
  go : Nat → Bytes → Bytes → Bytes × Bytes
    | 0, done, s => (done.reverse, s)
    | _, done, [] => (done.reverse, [])
    | _, done, '\n' :: s => (done.reverse, s)
    | n + 1, done, '\\' :: c :: s => go n (c :: done) s
    | n + 1, done, c :: s => go n (c :: done) s

/-- Commands in the order of the script; `opened` are blocks that have yet to be closed. -/
structure EditScript where
  commands : Array EditCommand := #[]
  opened : List Nat := []

/-- Reads commands, at most `n`. `length` is the length of the script. -/
def readEdits (t : Notation) (length : Nat) : Nat → EditScript → Bytes → Except EditFault EditScript
  | 0, p, _ => .ok p
  | n + 1, p, s =>
    let fault (s : Bytes) (message : String) : Except EditFault EditScript :=
      .error ⟨length - s.length, message⟩
    let s := s.dropWhile fun c => c == ' ' || c == '\t' || c == '\n' || c == ';'
    match s with
    | [] => if p.opened = [] then .ok p else .error ⟨0, "unmatched `\x7b'"⟩
    | '#' :: rest => readEdits t length n p (rest.dropWhile (· != '\n'))
    | s =>
      match address? t s with
      | none => fault [] "unterminated address regex"
      | some (a, rest) =>
        let rest := skipGaps rest
        let second : Option (Option Address × Bytes) := match a, rest with
          | some _, ',' :: rest => address? t (skipGaps rest)
          | _, rest => some (none, rest)
        match second with
        | none => fault [] "unterminated address regex"
        | some (b, rest) =>
          let rest := skipGaps rest
          let (isNegated, rest) := match rest with
            | '!' :: rest => (true, skipGaps rest)
            | rest => (false, rest)
          let add (e : Edit) (rest : Bytes) : Except EditFault EditScript :=
            let command : EditCommand := { start := a, finish := b, isNegated, edit := e }
            readEdits t length n ⟨p.commands.push command, p.opened⟩ rest
          match rest with
          | [] => fault [] "missing command"
          | c :: rest =>
            let word := (skipGaps rest).takeWhile fun c => c != ';' && c != '\n' && c != '\x7d'
            let behind := (skipGaps rest).drop word.length
            let code := Nat.ofDigitChars 10 (word.takeWhile Char.isDigit) 0
            match c with
            | 's' =>
              match rest with
              | [] => fault [] "unterminated `s' command"
              | d :: body =>
                match delimited d (body.length + 1) [] body with
                | none => fault [] "unterminated `s' command"
                | some (pattern, body) =>
                  match delimited d (body.length + 1) [] body with
                  | none => fault [] "unterminated `s' command"
                  | some (new, body) =>
                    let marks := body.takeWhile fun c => c.isAlphanum
                    let ignoresCase := t.ignoresCase || marks.contains 'i' || marks.contains 'I'
                    let nth := Nat.ofDigitChars 10 (marks.filter Char.isDigit) 0
                    match marks.find? fun c => !("gpiIeMmw".toList.contains c || c.isDigit) with
                    | some _ => fault (body.drop 1) "unknown option to `s'"
                    | none =>
                      match Regex.ofText? { t with ignoresCase } pattern with
                      | none => fault (body.drop marks.length) "Unmatched ( or \\("
                      | some (r, _) =>
                        add (.substitute r (replacementOf new.length new) (marks.contains 'g')
                          (max nth 1) (marks.contains 'p')) (body.drop marks.length)
            | 'y' =>
              match rest with
              | [] => fault [] "unterminated `y' command"
              | d :: body =>
                match delimited d (body.length + 1) [] body with
                | none => fault [] "unterminated `y' command"
                | some (source, body) =>
                  match delimited d (body.length + 1) [] body with
                  | none => fault [] "unterminated `y' command"
                  | some (target, body) => add (.exchange source target) body
            | 'd' => add .delete rest
            | 'D' => add .deleteFirst rest
            | 'p' => add .print rest
            | 'P' => add .printFirst rest
            | '=' => add .number rest
            | 'q' => add (.quit code true) behind
            | 'Q' => add (.quit code false) behind
            | 'n' => add .next rest
            | 'N' => add .nextBehind rest
            | 'h' => add (.hold false) rest
            | 'H' => add (.hold true) rest
            | 'g' => add (.get false) rest
            | 'G' => add (.get true) rest
            | 'x' => add .swap rest
            | 'a' => let (text, rest) := addedText rest; add (.append text) rest
            | 'i' => let (text, rest) := addedText rest; add (.insert text) rest
            | 'c' => let (text, rest) := addedText rest; add (.change text) rest
            | 'b' => add (.jump word false) behind
            | 't' => add (.jump word true) behind
            | ':' => add (.label word) behind
            | '\x7b' =>
              let opening : EditCommand := { start := a, finish := b, isNegated, edit := .block 0 }
              readEdits t length n
                ⟨p.commands.push opening, p.commands.size :: p.opened⟩ rest
            | '\x7d' =>
              match p.opened with
              | [] => fault rest "unexpected `\x7d'"
              | k :: opened =>
                let commands := match p.commands[k]? with
                  | some e => p.commands.setIfInBounds k { e with edit := .block p.commands.size }
                  | none => p.commands
                readEdits t length n { commands, opened } rest
            | c => fault rest ("unknown command: `" ++ .singleton c ++ "'")

/-! ## Running -/

/-- The lines at hand and to come, and what is written, the last piece first. `active` are the
commands whose range of lines is open, with the line that ends it if that is known. -/
structure Editing where
  line : Bytes := []
  held : Bytes := []
  rest : List Bytes
  number : Nat := 0
  isOpenEnded : Bool
  active : List (Nat × Option Nat) := []
  hasChanged : Bool := false
  added : List Bytes := []
  written : List Bytes := []
  lacksEnd : Bool := false

namespace Editing

def put (e : Editing) (s : Bytes) : Editing :=
  let start := if e.lacksEnd then ['\n'] else []
  { e with written := (start ++ s ++ ['\n']) :: e.written, lacksEnd := false }

/-- The line at hand; the last one of an open text stays open. -/
def putLine (e : Editing) : Editing :=
  if e.rest.isEmpty && e.isOpenEnded then
    let start := if e.lacksEnd then ['\n'] else []
    { e with written := (start ++ e.line) :: e.written, lacksEnd := true }
  else e.put e.line

def putAdded (e : Editing) : Editing :=
  e.added.reverse.foldl put { e with added := [] }

def Address.accepts (e : Editing) : Address → Bool
  | .line n => e.number == n
  | .step first width =>
    if width = 0 then e.number == first else first ≤ e.number && (e.number - first) % width == 0
  | .last => e.rest.isEmpty
  | .regex r => (r.find e.line 0).isSome
  | .following _ => false

/-- Whether a command is for the line at hand, and how its range of lines stands. -/
def selects (e : Editing) (k : Nat) (c : EditCommand) : Bool × Editing :=
  let closed : Editing := { e with active := e.active.filter (·.1 != k) }
  let answer : Bool × Editing := match c.start, c.finish with
    | none, _ => (true, e)
    | some a, none => (Address.accepts e a, e)
    | some a, some b =>
      match e.active.lookup k with
      | some finish =>
        match b, finish with
        | .line n, _ => if e.number < n then (true, e) else (e.number == n, closed)
        | _, some n => if e.number < n then (true, e) else (true, closed)
        | b, none => (true, if Address.accepts e b then closed else e)
      | none =>
        if Address.accepts e a then
          let opened (f : Option Nat) : Editing := { e with active := (k, f) :: e.active }
          match b with
          | .line n => (true, if n ≤ e.number then e else opened none)
          | .following 0 => (true, e)
          | .following n => (true, opened (some (e.number + n)))
          | .last => (true, if e.rest.isEmpty then e else opened none)
          | _ => (true, opened none)
        else (false, e)
  (answer.1 != c.isNegated, answer.2)

/-- The text in the place of a match. -/
def replaced (line : Bytes) (m : Match) (parts : List Replacement) : Bytes :=
  parts.flatMap fun p => match p with
    | .text s => s
    | .group 0 => (line.drop m.start).take (m.finish - m.start)
    | .group n => match m.groups.lookup n with
      | some (a, b) => (line.drop a).take (b - a)
      | none => []

/-- A line with matches from the nth one on replaced, all of them or just one; `fuel` bounds their
number. -/
def substituted (r : Regex) (parts : List Replacement) (everywhere : Bool) (line : Bytes) :
    Nat → Nat → Nat → Bytes × Bool
  | 0, _, position => (line.drop position, false)
  | fuel + 1, nth, position =>
    match r.find line position with
    | none => (line.drop position, false)
    | some m =>
      let before := (line.drop position).take (m.start - position)
      let own := (line.drop m.start).take (m.finish - m.start)
      let new := if nth ≤ 1 then replaced line m parts else own
      if nth ≤ 1 ∧ ¬everywhere then (before ++ new ++ line.drop m.finish, true)
      else if m.finish = m.start then
        match (line.drop m.finish).head? with
        | none => (before ++ new, nth ≤ 1)
        | some c =>
          let (rest, changed) := substituted r parts everywhere line fuel (nth - 1) (m.finish + 1)
          (before ++ new ++ c :: rest, changed || nth ≤ 1)
      else
        let (rest, changed) := substituted r parts everywhere line fuel (nth - 1) m.finish
        (before ++ new ++ rest, changed || nth ≤ 1)

/-- What comes after a command. -/
inductive Course
  | onTo (k : Nat)
  | nextLine (prints : Bool)
  | again
  | finish (code : Nat) (prints : Bool)

/-- Moves on to the next line. -/
def advance (e : Editing) : Option Editing :=
  match e.rest with
  | [] => none
  | l :: rest => some { e with line := l, rest, number := e.number + 1 }

/-- One command. -/
def perform (p : Array EditCommand) (isQuiet : Bool) (k : Nat) (c : EditCommand) (e : Editing) :
    Editing × Course :=
  let target (label : Bytes) : Nat :=
    (p.findIdx? fun c => match c.edit with
      | .label name => name == label
      | _ => false).getD p.size
  match c.edit with
  | .substitute r parts everywhere nth prints =>
    let (line, changed) := substituted r parts everywhere e.line (e.line.length + 2) nth 0
    if changed then
      let e := { e with line, hasChanged := true }
      (if prints then e.putLine else e, .onTo (k + 1))
    else (e, .onTo (k + 1))
  | .exchange source target =>
    ({ e with line := e.line.map fun c => match source.idxOf? c with
        | some n => target.getD n c
        | none => c }, .onTo (k + 1))
  | .delete => (e, .nextLine false)
  | .deleteFirst =>
    match e.line.dropWhile (· != '\n') with
    | [] => (e, .nextLine false)
    | _ :: rest => ({ e with line := rest }, .again)
  | .print => (e.putLine, .onTo (k + 1))
  | .printFirst => (e.put (e.line.takeWhile (· != '\n')), .onTo (k + 1))
  | .number => (e.put (.ofNat e.number), .onTo (k + 1))
  | .quit code prints => (e, .finish code prints)
  | .next =>
    let e' := if isQuiet then e else e.putLine
    match e'.putAdded.advance with
    | some e => (e, .onTo (k + 1))
    | none => (e, .finish 0 true)
  | .nextBehind =>
    match e.putAdded.advance with
    | some e' => ({ e' with line := e.line ++ '\n' :: e'.line }, .onTo (k + 1))
    | none => (e, .finish 0 true)
  | .hold appends =>
    ({ e with held := if appends then e.held ++ '\n' :: e.line else e.line }, .onTo (k + 1))
  | .get appends =>
    ({ e with line := if appends then e.line ++ '\n' :: e.held else e.held }, .onTo (k + 1))
  | .swap => ({ e with line := e.held, held := e.line }, .onTo (k + 1))
  | .append s => ({ e with added := s :: e.added }, .onTo (k + 1))
  | .insert s => (e.put s, .onTo (k + 1))
  | .change s =>
    let isInside := c.finish.isSome && (e.active.lookup k).isSome
    (if isInside then e else e.put s, .nextLine false)
  | .jump label onlyChanged =>
    if onlyChanged ∧ ¬e.hasChanged then (e, .onTo (k + 1))
    else ({ e with hasChanged := if onlyChanged then false else e.hasChanged },
      .onTo (if label = [] then p.size else target label))
  | .block _ | .label _ | .nothing => (e, .onTo (k + 1))

/-- Runs a script on all lines, in at most `n` steps, from command `k` on. -/
def run (p : Array EditCommand) (isQuiet : Bool) : Nat → Nat → Editing → Editing × Nat
  | 0, _, e => (e, 1)
  | n + 1, k, e =>
    match p[k]? with
    | none =>
      let e := (if isQuiet then e else e.putLine).putAdded
      match e.advance with
      | some e => run p isQuiet n 0 { e with hasChanged := false }
      | none => (e, 0)
    | some c =>
      match e.selects k c with
      | (false, e) =>
        match c.edit with
        | .block finish => run p isQuiet n finish e
        | _ => run p isQuiet n (k + 1) e
      | (true, e) =>
        match perform p isQuiet k c e with
        | (e, .onTo k) => run p isQuiet n k e
        | (e, .again) => run p isQuiet n 0 e.putAdded
        | (e, .nextLine prints) =>
          let e := (if prints then e.putLine else e).putAdded
          match e.advance with
          | some e => run p isQuiet n 0 { e with hasChanged := false }
          | none => (e, 0)
        | (e, .finish code prints) =>
          ((if prints && !isQuiet then e.putLine else e).putAdded, code)

end Editing

/-- How many steps a script may take. -/
def maxEditSteps : Nat := 10000000

def sedOptions : Call.Options where
  flags := "nErsuz"
  valued := "efl"
  long := [("quiet", "n"), ("silent", "n"), ("expression", "e"), ("regexp-extended", "E")]

def sed : Tool := fun c => c.withOptions sedOptions 1 false fun g => do
  let (scripts, files) := g.valuesOrFirst "e"
  let script := ['\n'].intercalate scripts
  let t : Notation := { isExtended := g.has ["E", "r"] }
  if scripts = [] then
    Act.complain
      "Usage: sed [OPTION]... \x7bscript-only-if-no-other-script\x7d [input-file]...\n".toList
    return 1
  match readEdits t script.length (script.length + 1) {} script with
  | .error e =>
    c.complain ("-e expression #1, char ".toList ++ .ofNat e.position ++ ": ".toList ++
      e.message.toList)
    return 1
  | .ok p =>
    let mut text : Bytes := []
    let mut status := 0
    for file in Call.inputs files do
      match ← Call.readInput file with
      | .error e =>
        if e = .isDirectory then
          c.complain ("couldn't edit ".toList ++ file ++ ": not a regular file".toList)
        else c.complain ("can't read ".toList ++ file ++ ": ".toList ++ e.reason.toList)
        status := 2
      | .ok s => text := (if Bytes.isOpenEnded text then text ++ ['\n'] else text) ++ s
    let start : Editing := { rest := Bytes.lines text, isOpenEnded := Bytes.isOpenEnded text }
    match start.advance with
    | none => return status
    | some e =>
      let (e, code) := Editing.run p.commands (g.has ["n"]) maxEditSteps 0 e
      let written ← c.emit e.written.reverse.flatten
      return if code ≠ 0 then code else max status (if written = 0 then 0 else 4)

end AppVersions.Machine.Tool
