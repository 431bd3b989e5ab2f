-- Reading words: quotes, parameters, sums and the output of commands.
import AppVersions.Machine.Script.Source

namespace AppVersions.Machine.Script

open Reading

/-! ## Classes of characters -/

/-- The characters that end a bare word. -/
def endsWord (c : Char) : Bool :=
  c == ' ' || c == '\t' || c == '\n' || c == ';' || c == '&' || c == '|' || c == '<' || c == '>' ||
    c == '(' || c == ')'

/-- Parameters whose name is one special character. -/
def isSpecial (c : Char) : Bool := "@*#?$!-".toList.contains c || c.isDigit

/-! ## Contexts -/

/-- What stands around the characters that are read. -/
inductive Context
  | bare
  | doubleQuotes
  | document
  | braces (isDouble : Bool) (inDocument : Bool)
  | sum (inDocument : Bool)
  deriving DecidableEq

namespace Context

/-- Whether only a few characters are special, as between double quotes. -/
def isDouble : Context → Bool
  | .bare => false
  | .doubleQuotes | .document | .sum _ => true
  | .braces d _ => d

def isDocument : Context → Bool
  | .document => true
  | .braces _ d | .sum d => d
  | _ => false

/-- What is wrong where the text ends in this context. -/
def fault : Context → Option String
  | .bare | .document => none
  | .doubleQuotes => some "Unterminated quoted string"
  | .braces d inDocument =>
    some (if d && !inDocument then "Unterminated quoted string" else "Missing '\x7d'")
  | .sum _ => some "Missing '))'"

end Context

/-- Whether a backslash takes the meaning from a character here; elsewhere it stands for itself. -/
def isEscapable (context : Context) (c : Char) : Bool :=
  !context.isDouble || c == '\\' || c == '\x60' || c == '$' ||
    (c == '"' && context != .document) ||
    (c == '\x7d' && match context with
      | .braces _ _ => true
      | _ => false)

/-! ## Pieces -/

/-- Pieces that stand with the last one first, in order, and neighbours of one kind as one. -/
def packed (ps : List Piece) : Word :=
  ps.foldl (fun w p => match p, w with
    | .plain s, .plain t :: rest => .plain (s ++ t) :: rest
    | .quoted s, .quoted t :: rest => .quoted (s ++ t) :: rest
    | p, w => p :: w) []

/-- A text up to the next single quote, which is passed. -/
def singleQuoted : Nat → Bytes → Reading Bytes
  | 0, _ => fail "Unterminated quoted string"
  | n + 1, done => do
    match ← nextRaw with
    | none => fail "Unterminated quoted string"
    | some '\x27' => return done.reverse
    | some c => singleQuoted n (c :: done)

/-- A script between backquotes, without the backslashes that protect it there. -/
def backquoted (isDouble : Bool) : Nat → Bytes → Reading Bytes
  | 0, _ => fail "EOF in backquote substitution"
  | n + 1, done => do
    match ← next with
    | none => fail "EOF in backquote substitution"
    | some '\x60' => return done.reverse
    | some '\\' =>
      match ← nextRaw with
      | none => fail "EOF in backquote substitution"
      | some c =>
        if c = '\\' ∨ c = '\x60' ∨ c = '$' ∨ (isDouble ∧ c = '"') then
          backquoted isDouble n (c :: done)
        else backquoted isDouble n (c :: '\\' :: done)
    | some c => backquoted isDouble n (c :: done)

/-- The operator behind a name in braces; a character that is none is passed. -/
def operator : Reading Operator := do
  let colon ← follows ':'
  match ← nextOnLine with
  | some '\x7d' => return if colon then .following else .plain
  | some '-' => return .orElse colon
  | some '+' => return .instead colon
  | some '?' => return .orComplain colon
  | some '=' => return .orAssign colon
  | some '#' => if colon then return .invalid else return .trimStart (← follows '#')
  | some '%' => if colon then return .invalid else return .trimEnd (← follows '%')
  | some _ => return .invalid
  | none => return .invalid

/-- The name and the operator of a parameter in braces, up to the word that belongs to them. The
length of a parameter is asked for in front of its name. -/
def parameter : Reading (Bytes × Operator) := do
  match ← nextOnLine with
  | none => return ([], .invalid)
  | some c =>
    if isNameStart c then
      let name ← run [c] isNameChar
      return (name, ← operator)
    else if c.isDigit then
      let name ← run [c] Char.isDigit
      return (name, ← operator)
    else if c = '\x7d' then
      modify fun s => { s with rest := '\x7d' :: s.rest }
      return ([], .invalid)
    else if c = '#' then
      match ← nextOnLine with
      | none => return ([], .invalid)
      | some d =>
        if isNameStart d || d.isDigit then
          let name ← run [d] (if d.isDigit then Char.isDigit else isNameChar)
          if ← follows '\x7d' then return (name, .length) else return (name, .invalid)
        else if d ≠ '\x7d' ∧ (← peek) = some '\x7d' then
          skip
          return ([d], if isSpecial d then .length else .invalid)
        else
          modify fun s => { s with rest := d :: s.rest }
          return (['#'], ← operator)
    else if isSpecial c then return ([c], ← operator)
    else return ([], .invalid)

/-- Whether the word behind an operator is read up to the closing brace. -/
def Operator.hasWord : Operator → Bool
  | .plain | .length => false
  | _ => true

def Operator.trims : Operator → Bool
  | .trimEnd _ | .trimStart _ => true
  | _ => false

/-- Whether what stands behind an operator takes the place of the value as it is. -/
def Operator.replaces : Operator → Bool
  | .orElse _ | .instead _ => true
  | _ => false

/-- Reads pieces up to the end of their context and passes it, except behind a bare word. `inner`
reads the commands up to a closing bracket and `script` those of a text; `depth` counts brackets in
a sum, and `inQuotes` tells whether values are kept from being split. -/
def pieces (inner : Reading Command) (script : Bytes → Reading Command) :
    Nat → Context → Bool → Nat → List Piece → Reading Word
  | 0, _, _, _, done => return packed done
  | n + 1, context, inQuotes, depth, done => do
    let again (p : Piece) : Reading Word := pieces inner script n context inQuotes depth (p :: done)
    let literal (c : Char) : Piece := if context.isDouble then .quoted [c] else .plain [c]
    match ← peek with
    | none =>
      match context.fault with
      | some message => fail message
      | none => return packed done
    | some '\n' =>
      if context = .bare then return packed done
      skip
      again (literal '\n')
    | some '\\' =>
      skip
      quote
      match ← nextRaw with
      | none => again (.quoted ['\\'])
      | some c => again (.quoted (if isEscapable context c then [c] else ['\\', c]))
    | some '\x27' =>
      skip
      if context.isDouble then again (literal '\x27')
      else
        quote
        let s ← singleQuoted ((← get).rest.length + 1) []
        pieces inner script n context inQuotes depth (.quoted s :: .quotes :: done)
    | some '"' =>
      skip
      match context with
      | .document | .sum _ => again (literal '"')
      | .doubleQuotes =>
        quote
        return packed done
      | .bare | .braces _ _ =>
        quote
        if context.isDocument then
          let w ← pieces inner script n .doubleQuotes inQuotes 0 []
          pieces inner script n context inQuotes depth (w.reverse ++ done)
        else
          let w ← pieces inner script n .doubleQuotes true 0 []
          match w, inQuotes with
          | [.value ['@'] .plain [] true], false => again .everyArgument
          | w, _ => pieces inner script n context inQuotes depth (w.reverse ++ .quotes :: done)
    | some '\x60' =>
      skip
      let text ← backquoted context.isDouble ((← get).rest.length + 1) []
      again (.output (← script text) inQuotes)
    | some '\x7d' =>
      skip
      match context with
      | .braces _ _ => return packed done
      | _ => again (literal '\x7d')
    | some '(' =>
      match context with
      | .bare => return packed done
      | .sum _ =>
        skip
        pieces inner script n context inQuotes (depth + 1) (literal '(' :: done)
      | _ =>
        skip
        again (literal '(')
    | some ')' =>
      match context, depth with
      | .bare, _ => return packed done
      | .sum _, 0 =>
        skip
        if ← follows ')' then return packed done
        again (literal ')')
      | .sum _, depth + 1 =>
        skip
        pieces inner script n context inQuotes depth (literal ')' :: done)
      | _, _ =>
        skip
        again (literal ')')
    | some '$' =>
      skip
      match ← peek with
      | some '(' =>
        skip
        if ← follows '(' then
          let w ← pieces inner script n (.sum context.isDocument) false 0 []
          again (.sum w inQuotes)
        else again (.output (← inner) inQuotes)
      | some '\x7b' =>
        skip
        let (name, op) ← parameter
        if op.hasWord then
          let isDouble := context.isDouble && !op.trims
          let other ← pieces inner script n (.braces isDouble context.isDocument)
            (inQuotes && op.replaces) 0 []
          again (.value name op other inQuotes)
        else again (.value name op [] inQuotes)
      | some c =>
        if isNameStart c then
          skip
          let name ← run [c] isNameChar
          again (.value name .plain [] inQuotes)
        else if isSpecial c then
          skip
          again (.value [c] .plain [] inQuotes)
        else again (literal '$')
      | none => again (literal '$')
    | some c =>
      if context = .bare && endsWord c then return packed done
      skip
      again (literal c)

/-- A word that names the end of a document: quotes count, and nothing else is special. -/
def markWord : Nat → Bool → List Piece → Reading Word
  | 0, _, done => return packed done
  | n + 1, inQuotes, done => do
    match ← peek with
    | none => if inQuotes then fail "Unterminated quoted string" else return packed done
    | some '\\' =>
      skip
      quote
      match ← nextRaw with
      | none => return packed (.quoted ['\\'] :: done)
      | some c =>
        let context : Context := if inQuotes then .doubleQuotes else .bare
        let s := if isEscapable context c then [c] else ['\\', c]
        markWord n inQuotes (.quoted s :: done)
    | some '"' =>
      skip
      quote
      markWord n (!inQuotes) done
    | some '\x27' =>
      skip
      if inQuotes then markWord n inQuotes (.quoted ['\x27'] :: done)
      else
        quote
        markWord n inQuotes (.quoted (← singleQuoted ((← get).rest.length + 1) []) :: done)
    | some c =>
      if !inQuotes && endsWord c then return packed done
      skip
      markWord n inQuotes (.plain [c] :: done)

/-- The text of a word that nothing is expanded in. -/
def literalText (w : Word) : Bytes :=
  w.flatMap fun p => match p with
    | .plain s | .quoted s => s
    | _ => []

end AppVersions.Machine.Script
