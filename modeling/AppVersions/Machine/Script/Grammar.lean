-- Reading commands: a script is read one line of commands at a time, so that what stands in front
-- of an error has been run when the error is met.
import AppVersions.Machine.Script.Words

namespace AppVersions.Machine.Script

open Reading

/-! ## Tokens -/

/-- Passes blanks and a comment. -/
def skipBlanks : Nat → Reading Unit
  | 0 => return
  | n + 1 => do
    match ← peek with
    | some ' ' | some '\t' =>
      skip
      skipBlanks n
    | some '#' => modify fun s => { s with rest := s.rest.dropWhile (· != '\n') }
    | _ => return

/-- The sign of a redirection behind its first character. -/
def sign (first : Char) : Reading Sign := do
  if first = '>' then
    if ← follows '>' then return .file .append
    else if ← follows '|' then return .file .overwrite
    else if ← follows '&' then return .copy
    else return .file .write
  else if ← follows '<' then return .document (← follows '-')
  else if ← follows '&' then return .copy
  else if ← follows '>' then return .file .readWrite
  else return .file .read

/-- A word, or a redirection if the word is at most a digit and the sign of one follows. -/
def wordToken (inner : Reading Command) (script : Bytes → Reading Command) (isMark : Bool) :
    Reading Token := do
  modify fun s => { s with isQuoted := false }
  let fuel := (← get).rest.length + 1
  let w ← if isMark then markWord fuel false [] else pieces inner script fuel .bare false 0 []
  let isQuoted := (← get).isQuoted
  let isNumber : Bool := match bareText? w with
    | some [] => true
    | some [c] => c.isDigit
    | _ => false
  match ← peek with
  | some c =>
    if (c = '<' ∨ c = '>') ∧ isNumber ∧ ¬isQuoted then
      skip
      let number := match bareText? w with
        | some [d] => d.toNat - '0'.toNat
        | _ => if c = '>' then 1 else 0
      return .redirection number (← sign c)
    else return .word w isQuoted
  | none => return .word w isQuoted

/-- The next token as it stands in the text. -/
def plainToken (inner : Reading Command) (script : Bytes → Reading Command) (isMark : Bool) :
    Reading Token := do
  match (← get).pushed with
  | some t =>
    modify fun s => { s with pushed := none }
    return t
  | none =>
    skipBlanks ((← get).rest.length + 1)
    let double (c : Char) (one two : String) : Reading Token := do
      skip
      return .mark (if ← follows c then two else one)
    match ← peek with
    | none => return .finish
    | some '\n' =>
      skip
      return .newline
    | some '&' => double '&' "&" "&&"
    | some '|' => double '|' "|" "||"
    | some ';' => double ';' ";" ";;"
    | some '(' =>
      skip
      return .mark "("
    | some ')' =>
      skip
      return .mark ")"
    | some _ => wordToken inner script isMark

/-! ## Documents -/

/-- The lines of a document up to its mark, and what follows. A line that ends in a backslash, where
that is special, goes on in the next one. -/
def documentText (a : Announced) : Nat → Bool → Bytes → Bytes → Bytes × Bytes × Nat
  | 0, _, done, rest => (done.reverse, rest, 0)
  | n + 1, continues, done, rest =>
    if rest = [] then (done.reverse, [], 0)
    else
      let rest := if a.dropsTabs && !continues then rest.dropWhile (· == '\t') else rest
      let line := rest.takeWhile (· != '\n')
      let after := rest.drop line.length
      if !continues && line == a.mark then (done.reverse, after.tail, 1)
      else
        let goesOn := !a.isQuoted && (line.reverse.takeWhile (· == '\\')).length % 2 == 1
        documentText a n goesOn (after.take 1 ++ line.reverse ++ done) after.tail

/-- Reads the documents that were announced. -/
def readDocuments (inner : Reading Command) (script : Bytes → Reading Command) : Reading Unit := do
  let announced := (← get).announced
  modify fun s => { s with announced := [] }
  for a in announced do
    let s ← get
    let (text, rest, ends) := documentText a (s.rest.length + 1) false [] s.rest
    let line := s.line + text.count '\n' + ends
    let w ← if a.isQuoted then pure [.quoted text] else do
      set { s with rest := text }
      pieces inner script (text.length + 1) .document true 0 []
    modify fun s => { s with rest, line, documents := (a.id, w) :: s.documents }

/-! ## Commands -/

/-- How far a list of commands goes: to the end of the line, or to a token that ends it, in which
case it may have to hold a command. -/
inductive Extent
  | line
  | body
  | inner
  deriving DecidableEq

/-- Commands of the shell that no function may have the name of. -/
def specialNames : List String :=
  [".", ":", "break", "continue", "eval", "exec", "exit", "export", "local", "readonly", "return",
    "set", "shift", "times", "trap", "unset"]

/-- A command that nobody waits for. -/
def Command.inBackground : Command → Command
  | .redirected line body rs => .background line body rs
  | c => .background 0 c []

/-- The redirection to a word. -/
def redirectionTo (number : Nat) (opening? : Option Opening) (w : Word) : Redirection :=
  match opening? with
  | some opening => .file number opening w
  | none =>
    match bareText? w with
    | some ['-'] => .close number
    | some [c] => if c.isDigit then .copy number (c.toNat - '0'.toNat) else .copyNamed number w
    | _ => .copyNamed number w

mutual

/-- The commands between brackets that stand for their output. -/
def commandsInside : Nat → Reading Command
  | 0 => fail "too deep"
  | n + 1 => do
    let before ← get
    set { before with announced := [] }
    let c ← list n .inner none
    let t ← token n false false
    if !t.isMark ")" then unexpectedFor (.mark ")")
    documents n
    modify fun s => { s with announced := before.announced, isQuoted := before.isQuoted }
    return c

/-- The commands of a text between backquotes. -/
def commandsOf : Nat → Bytes → Reading Command
  | 0, _ => fail "too deep"
  | n + 1, text => do
    let before ← get
    set { before with rest := text, line := 1, announced := [] }
    let c ← list n .inner none
    documents n
    modify fun s => { before with documents := s.documents, nextDocument := s.nextDocument }
    return c

def documents : Nat → Reading Unit
  | 0 => fail "too deep"
  | n + 1 => readDocuments (commandsInside n) (commandsOf n)

/-- The next token; line ends may be passed, and words that mean something told apart. -/
def token : Nat → Bool → Bool → Reading Token
  | 0, _, _ => fail "too deep"
  | n + 1, skipsNewlines, knowsKeywords => do
    let before ← get
    let start := if before.aliases.isEmpty then 0 else before.rest.length
    let t ← plainToken (commandsInside n) (commandsOf n) false
    if skipsNewlines && t.isNewline then
      documents n
      token n skipsNewlines knowsKeywords
    else
      let name? := match t with
        | .word w false => if knowsKeywords then bareText? w else none
        | _ => none
      let t : Token := match name? with
        | some s => if keywords.contains (.ofList s) then .keyword (.ofList s) else t
        | none => t
      let isAlias ← match name?, t, before.pushed with
        | some s, .word _ _, none => replaceAlias s start
        | _, _, _ => pure false
      if isAlias then token n skipsNewlines knowsKeywords
      else
        modify fun s => { s with last := t }
        return t

/-- A list of commands behind those in front of it. -/
def list : Nat → Extent → Option Command → Reading Command
  | 0, _, _ => fail "too deep"
  | n + 1, extent, before => do
    let t ← token n (extent ≠ .line) true
    match t with
    | .newline =>
      documents n
      return before.getD .nothing
    | .finish =>
      documents n
      push t
      return before.getD .nothing
    | t =>
      push t
      if (extent = .inner ∨ (extent = .body ∧ before.isSome)) ∧ t.endsList then
        return before.getD .nothing
      let c ← chain n
      let t ← token n false false
      let c := if t.isMark "&" then c.inBackground else c
      let c := match before with
        | none => c
        | some b => .sequence b c
      match t with
      | .mark "&" | .mark ";" => list n extent (some c)
      | .newline | .finish =>
        push t
        list n extent (some c)
      | t =>
        if extent = .line then unexpected
        push t
        return c

/-- Commands joined by the signs for "and" and "or". -/
def chain : Nat → Reading Command
  | 0 => fail "too deep"
  | n + 1 => do chained n (← pipeline n false false)

def chained : Nat → Command → Reading Command
  | 0, _ => fail "too deep"
  | n + 1, c => do
    let t ← token n false false
    if t.isMark "&&" then chained n (.both c (← pipeline n true true))
    else if t.isMark "||" then chained n (.either c (← pipeline n true true))
    else
      push t
      return c

/-- Commands joined to a pipe, whose status may be negated. -/
def pipeline : Nat → Bool → Bool → Reading Command
  | 0, _, _ => fail "too deep"
  | n + 1, skipsNewlines, knowsKeywords => do
    let t ← token n skipsNewlines knowsKeywords
    if t.isKeyword "!" then return .negate (← piped n [← command n false true])
    push t
    piped n [← command n false false]

def piped : Nat → List Command → Reading Command
  | 0, _ => fail "too deep"
  | n + 1, parts => do
    let t ← token n false false
    if t.isMark "|" then piped n ((← command n true true) :: parts)
    else
      push t
      match parts with
      | [c] => return c
      | parts => return .pipe parts.reverse

/-- One command with the redirections behind it. Those behind braces around nothing but a command in
brackets take the place of its own ones. -/
def command : Nat → Bool → Bool → Reading Command
  | 0, _, _ => fail "too deep"
  | n + 1, skipsNewlines, knowsKeywords => do
    let line := (← get).line
    let t ← token n skipsNewlines knowsKeywords
    match t with
    | .word _ _ | .redirection _ _ =>
      push t
      simple n (← get).line [] [] []
    | .mark "(" =>
      let c ← list n .body none
      closing n (.mark ")")
      return .apart line c (← redirections n [])
    | t =>
      let c ← compound n line t
      match c, ← redirections n [] with
      | c, [] => return c
      | .apart line body _, rs => return .apart line body rs
      | c, rs => return .redirected line c rs

/-- The token that has to come next. -/
def closing : Nat → Token → Reading Unit
  | 0, _ => fail "too deep"
  | n + 1, wanted => do
    let t ← token n false false
    if t.name ≠ wanted.name then unexpectedFor wanted

/-- A command that starts with a keyword. -/
def compound : Nat → Nat → Token → Reading Command
  | 0, _, _ => fail "too deep"
  | n + 1, line, t =>
    match t with
    | .keyword "if" => branch n
    | .keyword "while" => loop n true
    | .keyword "until" => loop n false
    | .keyword "for" => forLoop n line
    | .keyword "case" => do
      match ← token n false false with
      | .word subject _ =>
        if !(← token n true true).isKeyword "in" then unexpectedFor (.keyword "in")
        return .select line subject (← cases n [])
      | _ => unexpectedFor (.word [] false)
    | .keyword "\x7b" => do
      let c ← list n .body none
      closing n (.keyword "\x7d")
      return c
    | _ => unexpected

/-- What follows `if` or `elif`. -/
def branch : Nat → Reading Command
  | 0 => fail "too deep"
  | n + 1 => do
    let condition ← list n .body none
    closing n (.keyword "then")
    let whenTrue ← list n .body none
    let t ← token n false false
    if t.isKeyword "elif" then return .choose condition whenTrue (some (← branch n))
    if t.isKeyword "else" then
      let whenFalse ← list n .body none
      closing n (.keyword "fi")
      return .choose condition whenTrue (some whenFalse)
    push t
    closing n (.keyword "fi")
    return .choose condition whenTrue none

/-- What follows `while` or `until`. -/
def loop : Nat → Bool → Reading Command
  | 0, _ => fail "too deep"
  | n + 1, wanted => do
    let condition ← list n .body none
    closing n (.keyword "do")
    let body ← list n .body none
    closing n (.keyword "done")
    return .repeatWhile wanted condition body

/-- What follows `for`; without words the arguments are gone through. -/
def forLoop : Nat → Nat → Reading Command
  | 0, _ => fail "too deep"
  | n + 1, line => do
    let name ← match ← token n false false with
      | .word w false =>
        match bareText? w with
        | some s => if isName s then pure s else fail "Bad for loop variable"
        | none => fail "Bad for loop variable"
      | _ => fail "Bad for loop variable"
    let t ← token n true true
    let ws ←
      if t.isKeyword "in" then
        let ws ← loopWords n []
        let last := (← get).last
        if last.isNewline || last.isMark ";" then pure ws else unexpected
      else do
        if !t.isMark ";" then push t
        pure [[.everyArgument]]
    if !(← token n true true).isKeyword "do" then unexpectedFor (.keyword "do")
    let body ← list n .body none
    closing n (.keyword "done")
    return .forEach line name ws body

/-- Words up to another token, which is passed. -/
def loopWords : Nat → List Word → Reading (List Word)
  | 0, _ => fail "too deep"
  | n + 1, ws => do
    match ← token n false false with
    | .word w _ => loopWords n (w :: ws)
    | _ => return ws.reverse

/-- The cases of a choice by patterns. -/
def cases : Nat → List (List Word × Command) → Reading (List (List Word × Command))
  | 0, _ => fail "too deep"
  | n + 1, done => do
    let t ← token n true true
    if t.isKeyword "esac" then return done.reverse
    let t ← if t.isMark "(" then token n false false else pure t
    let ps ← patterns n t []
    let body ← list n .inner none
    let done := (ps, body) :: done
    let t ← token n true true
    if t.isKeyword "esac" then return done.reverse
    if !t.isMark ";;" then unexpectedFor (.mark ";;")
    cases n done

/-- Patterns up to the bracket behind them. -/
def patterns : Nat → Token → List Word → Reading (List Word)
  | 0, _, _ => fail "too deep"
  | n + 1, t, done => do
    let p : Word := match t with
      | .word w _ => w
      | .keyword s => [.plain s.toList]
      | _ => []
    let t ← token n false false
    if t.isMark "|" then patterns n (← token n false false) (p :: done)
    else if t.isMark ")" then return (p :: done).reverse
    else unexpectedFor (.mark ")")

/-- The redirections behind a command. -/
def redirections : Nat → List Redirection → Reading (List Redirection)
  | 0, _ => fail "too deep"
  | n + 1, done => do
    match ← token n false true with
    | .redirection number s => redirections n ((← redirection n number s) :: done)
    | t =>
      push t
      return done.reverse

/-- A redirection behind its sign. -/
def redirection : Nat → Nat → Sign → Reading Redirection
  | 0, _, _ => fail "too deep"
  | n + 1, number, s => do
    let isDocument := match s with
      | .document _ => true
      | _ => false
    let t ← plainToken (commandsInside n) (commandsOf n) isDocument
    modify fun s => { s with last := t }
    match t, s with
    | .word w _, .file opening => return redirectionTo number (some opening) w
    | .word w _, .copy => return redirectionTo number none w
    | .word w _, .text => return .text number w
    | .word w isQuoted, .document dropsTabs =>
      let id := (← get).nextDocument
      modify fun s => { s with
        nextDocument := id + 1
        announced := s.announced ++ [⟨id, literalText w, isQuoted, dropsTabs⟩] }
      return .document number id
    | _, _ => unexpected

/-- A command of words, with the settings in front of them and redirections anywhere. -/
def simple : Nat → Nat → List (Bytes × Word) → List Word → List Redirection → Reading Command
  | 0, _, _, _, _ => fail "too deep"
  | n + 1, line, settings, ws, rs => do
    match ← token n false false with
    | .word w _ =>
      match ws, w.setting? with
      | [], some s => simple n line (s :: settings) ws rs
      | _, _ => simple n line settings (w :: ws) rs
    | .redirection number s => simple n line settings ws ((← redirection n number s) :: rs)
    | t =>
      match t, settings, ws, rs with
      | .mark "(", [], [name], [] =>
        closing n (.mark ")")
        match bareText? name with
        | some s =>
          if !isName s || specialNames.contains (.ofList s) then fail "Bad function name"
          let line := (← get).line
          return .define s line (← command n true true)
        | none => fail "Bad function name"
      | t, _, _, _ =>
        push t
        return .simple line settings.reverse ws.reverse rs.reverse

end

/-! ## Scripts -/

/-- The text of a script from its first line on. -/
def Source.ofText (s : Bytes) : Source := { rest := s }

/-- Reads the next line of commands. The documents in it are numbered from `nextDocument` on. -/
def Source.next (s : Source) (aliases : List (Bytes × Bytes)) (nextDocument : Nat) :
    Except Fault (Command × Source) :=
  list (8 * s.rest.length + 64) .line none
    { s with pushed := none, announced := [], aliases, nextDocument }

/-- Whether the last line of commands ended with the text. -/
def Source.isFinished (s : Source) : Bool :=
  match s.pushed with
  | some .finish => true
  | _ => false

end AppVersions.Machine.Script
