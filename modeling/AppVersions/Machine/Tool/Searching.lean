-- Tools that search texts for expressions: lines that match, and the values of small sums and
-- matches.
import AppVersions.Machine.Script.Arithmetic
import AppVersions.Machine.Tool.Call
import AppVersions.Machine.Tool.Regex

namespace AppVersions.Machine.Tool

/-! ## Lines that match -/

/-- An expression for a text that stands for itself. -/
def Regex.literal (ignoresCase : Bool) (s : Bytes) : Regex :=
  s.foldr (fun c r => .seq (.ofChar { isExtended := true, ignoresCase } c) r) .nothing

/-- What a line has to be like: one of these expressions, alone or as a word, or not. -/
structure Query where
  expressions : List Regex
  isInverted : Bool := false
  asWord : Bool := false
  asLine : Bool := false

namespace Query

/-- Whether a match may count: as a whole line, or between characters that belong to no word. -/
def admits (q : Query) (line : Bytes) (m : Match) : Bool :=
  let isEdge (c : Option Char) : Bool := !c.any isWordChar
  (!q.asLine || (m.start == 0 && m.finish == line.length)) &&
    (!q.asWord ||
      (isEdge (line.take m.start).getLast? && isEdge (line.drop m.finish).head?))

/-- The longest match at a spot that may count. -/
def matchAt (q : Query) (line : Bytes) (s : Spot) : Option Match :=
  let found := q.expressions.flatMap fun r =>
    (r.ends line s).map fun e => (⟨s.position, e.position, e.groups⟩ : Match)
  (found.filter (q.admits line)).foldl (fun best m => match best with
    | some b => if b.finish < m.finish then some m else best
    | none => some m) none

/-- The first match from a spot on; `n` bounds the search. -/
def firstMatch (q : Query) (line : Bytes) : Nat → Spot → Option Match
  | 0, _ => none
  | n + 1, s =>
    match q.matchAt line s, s.rest with
    | some m, _ => some m
    | none, [] => none
    | none, c :: rest => q.firstMatch line n (s.forward c rest)

def accepts (q : Query) (line : Bytes) : Bool :=
  (q.firstMatch line (line.length + 1) (.at line 0)).isSome != q.isInverted

/-- The lines with their numbers, and which of them are chosen; these are at most `most`. -/
def choose (q : Query) (most : Option Nat) (ls : List Bytes) : List (Nat × Bytes × Bool) :=
  let add (s : List (Nat × Bytes × Bool) × Nat) (l : Bytes × Nat) :
      List (Nat × Bytes × Bool) × Nat :=
    let hit := q.accepts l.1 && most.all (s.2 < ·)
    ((l.2 + 1, l.1, hit) :: s.1, if hit then s.2 + 1 else s.2)
  (ls.zipIdx.foldl add ([], 0)).1.reverse

/-- All parts of a line that match and are not empty; `n` bounds their number. -/
def parts (q : Query) (line : Bytes) : Nat → Nat → List Bytes
  | 0, _ => []
  | n + 1, position =>
    match q.firstMatch line (line.length + 1) (.at line position) with
    | none => []
    | some m =>
      if m.finish = m.start then
        if line.length ≤ m.finish then [] else q.parts line n (m.finish + 1)
      else (line.drop m.start).take (m.finish - m.start) :: q.parts line n m.finish

end Query

/-- Numbered lines that are chosen, with those around them; a gap is marked between groups. -/
def withContext (before after : Nat) (chosen : List (Nat × Bytes × Bool)) :
    List (Option (Nat × Bytes × Bool)) :=
  let hits := chosen.filterMap fun (n, _, hit) => if hit then some n else none
  let kept := chosen.filter fun (n, _, _) => hits.any fun h => h ≤ n + before && n ≤ h + after
  (kept.foldl (fun (done, last) l =>
    let gap := match last with
      | some k => k + 1 < l.1 && 0 < before + after
      | none => false
    (some l :: (if gap then [none] else []) ++ done, some l.1))
    (([] : List (Option (Nat × Bytes × Bool))), (none : Option Nat))).1.reverse

def grepOptions : Call.Options where
  flags := "EFGPchHilLnoqrRsvwxaz"
  valued := "eABCmf"
  long := [("extended-regexp", "E"), ("fixed-strings", "F"), ("count", "c"), ("ignore-case", "i"),
    ("files-with-matches", "l"), ("line-number", "n"), ("only-matching", "o"), ("quiet", "q"),
    ("silent", "q"), ("no-messages", "s"), ("invert-match", "v"), ("word-regexp", "w"),
    ("line-regexp", "x"), ("regexp", "e"), ("max-count", "m"), ("no-filename", "h"),
    ("with-filename", "H")]

def grep : Tool := fun c => c.withOptions grepOptions 2 false fun g => do
  let (patterns, files) := g.valuesOrFirst "e"
  if patterns = [] then
    Act.complain ("Usage: grep [OPTION]... PATTERNS [FILE]...\n".toList ++
      "Try 'grep --help' for more information.\n".toList)
    return 2
  let ignoresCase := g.has ["i"]
  let isExtended := g.has ["E", "P"] || c.name.reverse.take 5 == "perge".toList
  let readOne (s : Bytes) : Option Regex :=
    if g.has ["F"] then some (.literal ignoresCase s)
    else (Regex.ofText? { isExtended, ignoresCase } s).map (·.1)
  match (patterns.flatMap (·.splitOn '\n')).mapM readOne with
  | none =>
    c.complain "Unmatched [, [^, [:, [., or [=".toList
    return 2
  | some expressions =>
    let q : Query :=
      { expressions, isInverted := g.has ["v"], asWord := g.has ["w"], asLine := g.has ["x"] }
    let names := (1 < files.length && !g.has ["h"]) || g.has ["H"]
    let number (letters : List String) : Nat := ((g.value? letters).bind natural?).getD 0
    let before := max (number ["B"]) (number ["C"])
    let after := max (number ["A"]) (number ["C"])
    let most := (g.value? ["m"]).bind natural?
    let mut found := false
    let mut failed := false
    for file in Call.inputs files do
      match ← Call.readInput file with
      | .error e =>
        failed := true
        if !g.has ["s"] then c.complain (file ++ ": ".toList ++ e.reason.toList)
      | .ok s =>
        let shown := if file = ['-'] then "(standard input)".toList else file
        let marked := q.choose most (Bytes.lines s)
        let count := (marked.filter (·.2.2)).length
        if 0 < count then found := true
        let lead (mark : Char) (n : Nat) : Bytes :=
          (if names then shown ++ [mark] else []) ++
            if g.has ["n"] then Bytes.ofNat n ++ [mark] else []
        let out : Bytes :=
          if g.has ["q"] then []
          else if g.has ["l"] then if 0 < count then shown ++ ['\n'] else []
          else if g.has ["L"] then if count = 0 then shown ++ ['\n'] else []
          else if g.has ["c"] then
            (if names then shown ++ [':'] else []) ++ Bytes.ofNat count ++ ['\n']
          else if g.has ["o"] then
            marked.flatMap fun (n, l, hit) =>
              if hit && !q.isInverted then
                (q.parts l (l.length + 1) 0).flatMap fun p => lead ':' n ++ p ++ ['\n']
              else []
          else (withContext before after marked).flatMap fun l => match l with
            | some (n, l, hit) => lead (if hit then ':' else '-') n ++ l ++ ['\n']
            | none => "--\n".toList
        let _ ← c.emit out
    return if failed && !(found && g.has ["q"]) then 2 else if found then 0 else 1

/-! ## Sums and matches -/

/-- What is wrong with an expression. -/
inductive ExprFault
  | misuse
  | missingAfter (s : Bytes)
  | unexpected (s : Bytes)
  | notInteger
  | divisionByZero

abbrev ExprResult := Except ExprFault (Bytes × List Bytes)

/-- Operators between two values and how tightly they bind. -/
def exprPrecedences : List (String × Nat) :=
  [("|", 0), ("&", 1), ("<", 2), ("<=", 2), ("=", 2), ("==", 2), ("!=", 2), (">=", 2), (">", 2),
    ("+", 3), ("-", 3), ("*", 4), ("/", 4), ("%", 4), (":", 5)]

def exprIsNull (s : Bytes) : Bool :=
  let digits := if s.head? = some '-' then s.tail else s
  s.isEmpty || (!digits.isEmpty && digits.all (· == '0'))

/-- What an expression matches at the start of a text: the first group, or how much it is. -/
def matchedPart (s pattern : Bytes) : Bytes :=
  match Regex.ofText? { isExtended := false } pattern with
  | none => ['0']
  | some (r, groups) =>
    match r.matchAt s (.at s 0) with
    | none => if groups = 0 then ['0'] else []
    | some m =>
      if groups = 0 then .ofNat m.finish
      else match m.groups.lookup 1 with
        | some (a, b) => (s.drop a).take (b - a)
        | none => []

def exprOperate (op : String) (a b : Bytes) : Except ExprFault Bytes := do
  let truth (b : Bool) : Bytes := if b then ['1'] else ['0']
  let numbers : Except ExprFault (Int × Int) := match integer? a, integer? b with
    | some m, some n => .ok (m, n)
    | _, _ => .error .notInteger
  let order : Ordering := match integer? a, integer? b with
    | some m, some n => compare m n
    | _, _ => compare a b
  match op with
  | "|" => return if !exprIsNull a then a else if !exprIsNull b then b else ['0']
  | "&" => return if !exprIsNull a && !exprIsNull b then a else ['0']
  | "<" => return truth (order == .lt)
  | "<=" => return truth (order != .gt)
  | "=" | "==" => return truth (order == .eq)
  | "!=" => return truth (order != .eq)
  | ">=" => return truth (order != .lt)
  | ">" => return truth (order == .gt)
  | ":" => return matchedPart a b
  | "+" => let (m, n) ← numbers; return .ofInt (m + n)
  | "-" => let (m, n) ← numbers; return .ofInt (m - n)
  | "*" => let (m, n) ← numbers; return .ofInt (m * n)
  | _ =>
    let (m, n) ← numbers
    if n = 0 then throw .divisionByZero
    return .ofInt (if op = "/" then m.tdiv n else m.tmod n)

mutual

def exprTerm : Nat → Bytes → List Bytes → ExprResult
  | 0, _, _ => .error .misuse
  | _, last, [] => .error (.missingAfter last)
  | n + 1, _, w :: rest =>
    match String.ofList w, rest with
    | "(", rest => do
      let (v, rest) ← exprOperations n 0 w rest
      match rest with
      | [')'] :: rest => return (v, rest)
      | s :: _ => throw (.unexpected s)
      | [] => throw (.missingAfter v)
    | "length", s :: rest => return (.ofNat (Bytes.chars s).length, rest)
    | "match", a :: b :: rest => return (matchedPart a b, rest)
    | "index", a :: b :: rest =>
      return (.ofNat ((a.findIdx? fun c => b.contains c).elim 0 (· + 1)), rest)
    | "substr", s :: a :: b :: rest =>
      match integer? a, integer? b with
      | some m, some k =>
        return (if m < 1 ∨ k < 1 then [] else (s.drop (m.toNat - 1)).take k.toNat, rest)
      | _, _ => return ([], rest)
    | _, rest => return (w, rest)

/-- Values joined by operators that bind at least as tightly as `least`. -/
def exprOperations : Nat → Nat → Bytes → List Bytes → ExprResult
  | 0, _, _, _ => .error .misuse
  | n + 1, least, last, ws => do
    let (a, rest) ← exprTerm n last ws
    exprGoOn n least a rest

def exprGoOn : Nat → Nat → Bytes → List Bytes → ExprResult
  | 0, _, _, _ => .error .misuse
  | n + 1, least, a, ws =>
    match ws with
    | op :: rest =>
      match exprPrecedences.lookup (.ofList op) with
      | some p =>
        if p < least then .ok (a, ws)
        else do
          let (b, rest) ← exprOperations n (p + 1) op rest
          exprGoOn n least (← exprOperate (.ofList op) a b) rest
      | none => .ok (a, ws)
    | [] => .ok (a, [])

end

def expr : Tool := fun c => do
  let quote ← quoting
  let fault (e : ExprFault) : Act Nat := do
    match e with
    | .misuse => c.complain "syntax error".toList
    | .missingAfter s => c.complain ("syntax error: missing argument after ".toList ++ quote s)
    | .unexpected s => c.complain ("syntax error: unexpected argument ".toList ++ quote s)
    | .notInteger => c.complain "non-integer argument".toList
    | .divisionByZero => c.complain "division by zero".toList
    return 2
  match c.arguments with
  | [] => c.misuse "missing operand".toList 2
  | ws =>
    match exprOperations (8 * ws.length + 8) 0 [] ws with
    | .error e => fault e
    | .ok (v, []) => c.emitThen (v ++ ['\n']) (if exprIsNull v then 1 else 0)
    | .ok (_, s :: _) => fault (.unexpected s)

end AppVersions.Machine.Tool
