-- Conditions on texts, numbers and files: which words are operators, how the shell reads a
-- condition, and how the tool does.
import AppVersions.Machine.Script.Arithmetic
import AppVersions.Machine.Tool.Call

namespace AppVersions.Machine.Tool

/-! ## Operators -/

def unaryOperators : List String :=
  ["-r", "-w", "-x", "-e", "-f", "-d", "-c", "-b", "-p", "-u", "-g", "-k", "-s", "-t", "-z", "-n",
    "-h", "-L", "-S", "-O", "-G"]

def binaryOperators : List String :=
  ["=", "!=", "<", ">", "-eq", "-ne", "-ge", "-gt", "-le", "-lt", "-nt", "-ot", "-ef"]

def isUnary (s : Bytes) : Bool := unaryOperators.contains (.ofList s)

def isBinary (s : Bytes) : Bool := binaryOperators.contains (.ofList s)

/-- Why a condition cannot be decided. -/
inductive ConditionFault
  | unexpectedOperator (s : Bytes)
  | argumentExpected (operator : Bytes)
  | closingExpected
  | illegalNumber (s : Bytes)
  deriving DecidableEq

/-! ## Values -/

/-- What a condition on a file asks for. -/
def onFile (operator : Char) (s : Bytes) : Act Bool := do
  let t ← Act.tree
  let here ← Act.here
  let p : Path := ⟨Bytes.text s⟩
  if operator = 'h' ∨ operator = 'L' then
    match t.entryPlace here p with
    | .ok place => return match t.node? place with
      | some (.link _) => true
      | _ => false
    | .error _ => return false
  else
    match t.find here p with
    | .error _ => return false
    | .ok n =>
      match operator with
      | 'r' => return mayRead n.mode
      | 'w' => return mayWrite n.mode
      | 'x' => return mayRun n.mode
      | 'e' => return true
      | 'O' | 'G' => return mayWrite n.mode || n.mode / 128 % 4 == 0
      | 'f' => return n.isFile
      | 'd' => return n.isDirectory
      | 's' => return match n with
        | .file _ content => !content.isEmpty
        | .program _ | .directory _ => true
        | _ => false
      | 'c' => return match n with
        | .device _ => true
        | _ => false
      | _ => return false

def onText (operator : Bytes) (s : Bytes) : Act Bool := do
  match operator with
  | ['-', 'n'] => return s ≠ []
  | ['-', 'z'] => return s = []
  | ['-', 't'] => return false
  | [_, c] => onFile c s
  | _ => return false

/-- The place of a file, if there is one. -/
def place? (s : Bytes) : Act (Option Place) := do
  match (← Act.tree).locate (← Act.here) ⟨Bytes.text s⟩ with
  | .ok place => return some place
  | .error _ => return none

/-- A comparison of texts or files, unless the operator is one of numbers. All files are of one
age. -/
def compareTexts? (a operator b : Bytes) : Act (Option Bool) := do
  match String.ofList operator with
  | "=" => return some (a == b)
  | "==" => return some (a == b)
  | "!=" => return some (a != b)
  | "<" => return some (decide (a < b))
  | ">" => return some (decide (b < a))
  | "-ef" =>
    let p ← place? a
    return some (p.isSome && p == (← place? b))
  | "-nt" | "-ot" => return some false
  | _ => return none

def compareNumbers (m : Int) (operator : Bytes) (n : Int) : Bool :=
  match String.ofList operator with
  | "-eq" => m == n
  | "-ne" => m != n
  | "-lt" => m < n
  | "-le" => m ≤ n
  | "-gt" => n < m
  | _ => n ≤ m

/-- A number in a condition of the shell. -/
def conditionNumber? (s : Bytes) : Option Int :=
  if s.all Script.isSpace then none
  else
    let body := s.dropWhile Script.isSpace
    let (isNegative, ds) := match body with
      | '-' :: rest => (true, rest)
      | '+' :: rest => (false, rest)
      | rest => (false, rest)
    let n : Int := (Script.digitsOf 10 ds).1
    let n := if isNegative then -n else n
    let rest := ds.dropWhile Char.isDigit
    if ds.head?.any Char.isDigit ∧ rest.all Script.isSpace ∧ Script.clamped n = n then some n
    else none

/-! ## Conditions of the shell -/

/-- What a word is where a condition goes on. -/
inductive Role
  | finish
  | operand
  | unary
  | binary
  | negation
  | both
  | either
  | opening
  | closing
  deriving DecidableEq

/-- The role of the first word. A unary operator is an operand where nothing follows it, or a binary
operator does. -/
def roleOf (ws : List Bytes) : Role :=
  match ws with
  | [] => .finish
  | w :: rest =>
    if isUnary w then
      match rest with
      | [] => .operand
      | next :: _ :: _ => if isBinary next then .operand else .unary
      | [_] => .unary
    else if isBinary w then .binary
    else if w = ['!'] then .negation
    else if w = ['-', 'a'] then .both
    else if w = ['-', 'o'] then .either
    else if w = ['('] then if rest = [] then .operand else .opening
    else if w = [')'] then .closing
    else .operand

/-- A value, and the words from the last one on that was looked at. -/
abbrev Decided := Except ConditionFault (Bool × List Bytes)

mutual

/-- Values of which one has to hold; `n` bounds the depth. -/
def anyOf : Nat → Bool → Role → List Bytes → Act Decided
  | 0, _, _, ws => return .ok (false, ws)
  | n + 1, before, role, ws => do
    match ← allOf n true role ws with
    | .error e => return .error e
    | .ok (b, ws) =>
      if roleOf ws.tail = .either then anyOf n (before || b) (roleOf (ws.drop 2)) (ws.drop 2)
      else return .ok (before || b, ws)

/-- Values that have to hold all. -/
def allOf : Nat → Bool → Role → List Bytes → Act Decided
  | 0, _, _, ws => return .ok (false, ws)
  | n + 1, before, role, ws => do
    match ← negated n role ws with
    | .error e => return .error e
    | .ok (b, ws) =>
      if roleOf ws.tail = .both then allOf n (before && b) (roleOf (ws.drop 2)) (ws.drop 2)
      else return .ok (before && b, ws)

def negated : Nat → Role → List Bytes → Act Decided
  | 0, _, ws => return .ok (false, ws)
  | n + 1, role, ws => do
    if role ≠ .negation then primary n role ws
    else
      let next := roleOf ws.tail
      match ← negated n next (if next = .finish then ws else ws.tail) with
      | .error e => return .error e
      | .ok (b, ws) => return .ok (!b, ws)

def primary : Nat → Role → List Bytes → Act Decided
  | 0, _, ws => return .ok (false, ws)
  | n + 1, role, ws => do
    match role, ws with
    | .finish, ws => return .ok (false, ws)
    | .opening, ws =>
      let inner := roleOf ws.tail
      if inner = .closing then return .ok (false, ws.tail)
      match ← anyOf n false inner ws.tail with
      | .error e => return .error e
      | .ok (b, ws) =>
        if roleOf ws.tail ≠ .closing then return .error .closingExpected
        return .ok (b, ws.tail)
    | .unary, op :: s :: rest => return .ok (← onText op s, s :: rest)
    | .unary, [op] => return .error (.argumentExpected op)
    | _, a :: op :: rest =>
      if roleOf (op :: rest) = .binary then
        match rest with
        | [] => return .error (.argumentExpected op)
        | b :: rest =>
          match ← compareTexts? a op b with
          | some r => return .ok (r, b :: rest)
          | none =>
            match conditionNumber? a, conditionNumber? b with
            | none, _ => return .error (.illegalNumber a)
            | _, none => return .error (.illegalNumber b)
            | some m, some k => return .ok (compareNumbers m op k, b :: rest)
      else return .ok (a ≠ [], ws)
    | _, [a] => return .ok (a ≠ [], ws)
    | _, [] => return .ok (false, [])

end

/-- Whether a condition holds, as the shell reads it. What is in brackets or negated is told apart
by the number of words first. -/
def heldBy (isNegated : Bool) : Nat → List Bytes → Act (Except ConditionFault Bool)
  | 0, _ => return .ok false
  | n + 1, ws => do
    let fuel := 6 * ws.length + 12
    let result (role : Role) (ws : List Bytes) : Act (Except ConditionFault Bool) := do
      match ← anyOf fuel false role ws with
      | .error e => return .error e
      | .ok (b, rest) =>
        match rest with
        | w :: _ :: _ => return .error (.unexpectedOperator w)
        | _ => return .ok (b != isNegated)
    let bracketed := ws.head? = some ['('] && ws.getLast? = some [')']
    match ws with
    | [] => return .ok false
    | [_, op, _] | [_, op, _, _] =>
      if ws.length = 3 ∧ isBinary op then result .operand ws
      else if bracketed then
        let inner := ws.tail.dropLast
        result (roleOf inner) inner
      else if ws.head? = some ['!'] then heldBy true n ws.tail
      else result (roleOf ws) ws
    | ws => result (roleOf ws) ws

/-- Whether a condition of the shell holds. -/
def holds (ws : List Bytes) : Act (Except ConditionFault Bool) := heldBy false (ws.length + 1) ws

def ConditionFault.message : ConditionFault → Bytes
  | .unexpectedOperator s => s ++ ": unexpected operator".toList
  | .argumentExpected s => s ++ ": argument expected".toList
  | .closingExpected => "closing paren expected".toList
  | .illegalNumber s => "Illegal number: ".toList ++ s

/-! ## Conditions of the tool -/

/-- What is wrong with a condition of the tool, around the words that it names. -/
inductive Misfit
  | missingAfter (s : Bytes)
  | binaryExpected (s : Bytes)
  | unaryExpected (s : Bytes)
  | extra (s : Bytes)
  | notInteger (s : Bytes)
  | expected (s : Bytes)

def Misfit.message (quote : Bytes → Bytes) : Misfit → Bytes
  | .missingAfter s => "missing argument after ".toList ++ quote s
  | .binaryExpected s => quote s ++ ": binary operator expected".toList
  | .unaryExpected s => quote s ++ ": unary operator expected".toList
  | .extra s => "extra argument ".toList ++ quote s
  | .notInteger s => "invalid integer ".toList ++ quote s
  | .expected s => quote s ++ " expected".toList

def isToolBinary (s : Bytes) : Bool := isBinary s || s == ['=', '=']

def isDashed (s : Bytes) : Bool := match s with
  | ['-', c] => c != '-'
  | _ => false

/-- A number in a condition of the tool. -/
def toolInteger? (s : Bytes) : Option Int :=
  let isBlank (c : Char) : Bool := c == ' ' || c == '\t'
  integer? ((s.dropWhile isBlank).reverse.dropWhile isBlank).reverse

def toolUnary (op s : Bytes) : Act (Except Misfit Bool) := do
  if isUnary op || op == "-N".toList then return .ok (← onText op s)
  else return .error (.unaryExpected op)

/-- The tool takes a file that is missing for older than every other one. -/
def toolBinary (a op b : Bytes) : Act (Except Misfit Bool) := do
  if op = "-nt".toList then return .ok ((← place? a).isSome && (← place? b).isNone)
  if op = "-ot".toList then return .ok ((← place? a).isNone && (← place? b).isSome)
  match ← compareTexts? a op b with
  | some r => return .ok r
  | none =>
    match toolInteger? a, toolInteger? b with
    | none, _ => return .error (.notInteger a)
    | _, none => return .error (.notInteger b)
    | some m, some k => return .ok (compareNumbers m op k)

mutual

/-- A condition with connectives, and the words behind it. -/
def toolAny : Nat → List Bytes → Act (Except Misfit (Bool × List Bytes))
  | 0, ws => return .ok (false, ws)
  | n + 1, ws => do
    match ← toolAll n ws with
    | .error e => return .error e
    | .ok (a, ['-', 'o'] :: rest) =>
      match ← toolAny n rest with
      | .error e => return .error e
      | .ok (b, rest) => return .ok (a || b, rest)
    | r => return r

def toolAll : Nat → List Bytes → Act (Except Misfit (Bool × List Bytes))
  | 0, ws => return .ok (false, ws)
  | n + 1, ws => do
    match ← toolTerm n ws with
    | .error e => return .error e
    | .ok (a, ['-', 'a'] :: rest) =>
      match ← toolAll n rest with
      | .error e => return .error e
      | .ok (b, rest) => return .ok (a && b, rest)
    | r => return r

def toolTerm : Nat → List Bytes → Act (Except Misfit (Bool × List Bytes))
  | 0, ws => return .ok (false, ws)
  | n + 1, ws => do
    match ws with
    | [] => return .error (.missingAfter [])
    | ['!'] :: rest =>
      match ← toolTerm n rest with
      | .error e => return .error e
      | .ok (b, rest) => return .ok (!b, rest)
    | ['('] :: rest =>
      match ← toolAny n rest with
      | .error e => return .error e
      | .ok (b, [')'] :: rest) => return .ok (b, rest)
      | .ok (_, _) => return .error (.expected [')'])
    | a :: op :: b :: rest =>
      if isToolBinary op then
        match ← toolBinary a op b with
        | .error e => return .error e
        | .ok r => return .ok (r, rest)
      else if isDashed a then
        match ← toolUnary a op with
        | .error e => return .error e
        | .ok r => return .ok (r, b :: rest)
      else return .ok (a ≠ [], op :: b :: rest)
    | [a, b] =>
      if isDashed a then
        match ← toolUnary a b with
        | .error e => return .error e
        | .ok r => return .ok (r, [])
      else if isToolBinary b then return .error (.missingAfter b)
      else return .ok (a ≠ [], [b])
    | [a] => return .ok (a ≠ [], [])

end

/-- Whether a condition holds, as the tool reads it: up to four words have meanings of their own. -/
def toolHolds : List Bytes → Act (Except Misfit Bool)
  | [] => return .ok false
  | [a] => return .ok (a ≠ [])
  | [a, b] => do
    if a = ['!'] then return .ok (b = [])
    else if isDashed a then toolUnary a b
    else return .error (.missingAfter b)
  | [a, b, c] => do
    if isToolBinary b then toolBinary a b c
    else if a = ['!'] then
      match ← toolHolds [b, c] with
      | .ok r => return .ok (!r)
      | .error e => return .error e
    else if a = ['('] ∧ c = [')'] then return .ok (b ≠ [])
    else if b = ['-', 'a'] then return .ok (a ≠ [] ∧ c ≠ [])
    else if b = ['-', 'o'] then return .ok (a ≠ [] ∨ c ≠ [])
    else return .error (.binaryExpected b)
  | ws => do
    match ← toolAny (6 * ws.length + 12) ws with
    | .error (.missingAfter []) => return .error (.missingAfter (ws.getLastD []))
    | .error e => return .error e
    | .ok (r, []) => return .ok r
    | .ok (_, s :: _) => return .error (.extra s)

/-- The tool under its own name, or under that of a bracket, which another one has to close. -/
def test (isBracket : Bool) : Tool := fun c => do
  let quote ← quoting
  if isBracket ∧ c.arguments.getLast? ≠ some [']'] then
    c.complain ("missing ".toList ++ quote [']'])
    return 2
  match ← toolHolds (if isBracket then c.arguments.dropLast else c.arguments) with
  | .ok b => return if b then 0 else 1
  | .error e =>
    c.complain (e.message quote)
    return 2

end AppVersions.Machine.Tool
