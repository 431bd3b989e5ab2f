-- Regular expressions of the tools that search, in their basic and their extended notation, and the
-- longest match at a place.
import AppVersions.Machine.Script.Matching

namespace AppVersions.Machine.Tool

/-! ## Expressions -/

/-- A member of a set of characters. -/
inductive Member
  | range (a b : Char)
  | named (name : String)
  deriving DecidableEq, Repr

/-- Where a place between characters has to be. -/
inductive Anchor
  | start
  | finish
  | wordStart
  | wordEnd
  | wordEdge
  | noWordEdge
  deriving DecidableEq, Repr

inductive Regex
  | nothing
  | char (c : Char)
  | any
  | set (isInverted : Bool) (members : List Member)
  | anchor (a : Anchor)
  | group (n : Nat) (r : Regex)
  | seq (a b : Regex)
  | alt (a b : Regex)
  | repeated (r : Regex) (least : Nat) (most : Option Nat)
  | back (n : Nat)
  deriving DecidableEq, Repr

/-! ## Reading -/

/-- Members of a set up to its closing bracket; `isFirst` tells that none has come yet. -/
def setMembers : Nat → Bool → Bytes → Option (List Member × Bytes)
  | 0, _, _ | _, _, [] => none
  | n + 1, isFirst, c :: s =>
    if c = ']' ∧ ¬isFirst then some ([], s)
    else
      let named? : Option (String × Bytes) := match c, s with
        | '[', ':' :: rest =>
          let name := rest.takeWhile (· != ':')
          match rest.drop name.length with
          | ':' :: ']' :: rest => some (.ofList name, rest)
          | _ => none
        | _, _ => none
      match named?, s with
      | some (name, rest), _ => do
        let (ms, rest) ← setMembers n false rest
        return (.named name :: ms, rest)
      | none, '-' :: d :: rest =>
        if d = ']' then do
          let (ms, rest) ← setMembers n false s
          return (.range c c :: ms, rest)
        else do
          let (ms, rest) ← setMembers n false rest
          return (.range c d :: ms, rest)
      | none, s => do
        let (ms, rest) ← setMembers n false s
        return (.range c c :: ms, rest)

/-- What is being read: whether signs have their meaning without a backslash, and whether case
counts. -/
structure Notation where
  isExtended : Bool
  ignoresCase : Bool := false

/-- A sign at the start of a text, as the notation writes it. -/
def Notation.sign? (t : Notation) (c : Char) (s : Bytes) : Option Bytes :=
  match t.isExtended, s with
  | true, d :: rest => if c = d then some rest else none
  | false, '\\' :: d :: rest => if c = d then some rest else none
  | _, _ => none

/-- Bounds of a repetition behind their opening brace. -/
def Notation.bounds? (t : Notation) (s : Bytes) : Option (Nat × Option Nat × Bytes) :=
  let ds := s.takeWhile Char.isDigit
  let least := Nat.ofDigitChars 10 ds 0
  let rest := s.drop ds.length
  let (most, rest) : Option Nat × Bytes := match rest with
    | ',' :: more =>
      let es := more.takeWhile Char.isDigit
      (if es = [] then none else some (Nat.ofDigitChars 10 es 0), more.drop es.length)
    | rest => (some least, rest)
  match t.sign? '\x7d' rest with
  | some rest => some (least, most, rest)
  | none => none

/-- Signs behind an expression that repeat it. -/
def Notation.repeats (t : Notation) : Nat → Regex → Bytes → Option (Regex × Bytes)
  | 0, r, s => some (r, s)
  | n + 1, r, s =>
    match s with
    | '*' :: rest => t.repeats n (.repeated r 0 none) rest
    | s =>
      match t.sign? '+' s, t.sign? '?' s, t.sign? '\x7b' s with
      | some rest, _, _ => t.repeats n (.repeated r 1 none) rest
      | _, some rest, _ => t.repeats n (.repeated r 0 (some 1)) rest
      | _, _, some rest => do
        let (least, most, rest) ← t.bounds? rest
        t.repeats n (.repeated r least most) rest
      | _, _, _ => some (r, s)

def Regex.ofChar (t : Notation) (c : Char) : Regex :=
  if t.ignoresCase ∧ c.isAlpha then
    .set false [.range c.toLower c.toLower, .range c.toUpper c.toUpper]
  else .char c

def wordMembers : List Member := [.named "alnum", .range '_' '_']

mutual

/-- Alternatives up to the end or to a closing bracket; `groups` counts the brackets so far. -/
def alternatives (t : Notation) : Nat → Nat → Bytes → Option (Regex × Nat × Bytes)
  | 0, _, _ => none
  | n + 1, groups, s => do
    let (a, groups, rest) ← sequence t n true groups s
    match t.sign? '|' rest with
    | some rest =>
      let (b, groups, rest) ← alternatives t n groups rest
      return (.alt a b, groups, rest)
    | none => return (a, groups, rest)

/-- Expressions one behind the other; `isFirst` tells that none has come yet. -/
def sequence (t : Notation) : Nat → Bool → Nat → Bytes → Option (Regex × Nat × Bytes)
  | 0, _, _, _ => none
  | n + 1, isFirst, groups, s =>
    if s = [] ∨ (t.sign? '|' s).isSome ∨ (t.sign? ')' s).isSome then some (.nothing, groups, s)
    else do
      let (a, groups, rest) ← atom t n isFirst groups s
      let (a, rest) ← if a = .anchor .start ∧ ¬t.isExtended then some (a, rest)
        else t.repeats n a rest
      let (b, groups, rest) ← sequence t n (a = .anchor .start) groups rest
      return (.seq a b, groups, rest)

def atom (t : Notation) : Nat → Bool → Nat → Bytes → Option (Regex × Nat × Bytes)
  | 0, _, _, _ => none
  | n + 1, isFirst, groups, s =>
    match t.sign? '(' s with
    | some rest => do
      let own := groups + 1
      let (r, groups, rest) ← alternatives t n own rest
      let rest ← t.sign? ')' rest
      return (.group own r, groups, rest)
    | none =>
      let plain (c : Char) (rest : Bytes) : Option (Regex × Nat × Bytes) :=
        some (.ofChar t c, groups, rest)
      let found (r : Regex) (rest : Bytes) : Option (Regex × Nat × Bytes) := some (r, groups, rest)
      match s with
      | [] => none
      | '.' :: rest => found .any rest
      | '[' :: '^' :: rest => do
        let (ms, rest) ← setMembers (rest.length + 1) true rest
        found (.set true (cased ms)) rest
      | '[' :: rest => do
        let (ms, rest) ← setMembers (rest.length + 1) true rest
        found (.set false (cased ms)) rest
      | '^' :: rest =>
        if isFirst ∨ t.isExtended then found (.anchor .start) rest else plain '^' rest
      | '$' :: rest =>
        let isLast :=
          rest = [] ∨ t.isExtended ∨ (t.sign? '|' rest).isSome ∨ (t.sign? ')' rest).isSome
        if isLast then found (.anchor .finish) rest else plain '$' rest
      | '*' :: rest => if isFirst then plain '*' rest else none
      | ['\\'] => none
      | '\\' :: c :: rest =>
        match c with
        | 'w' => found (.set false wordMembers) rest
        | 'W' => found (.set true wordMembers) rest
        | 's' => found (.set false [.named "space"]) rest
        | 'S' => found (.set true [.named "space"]) rest
        | 'b' => found (.anchor .wordEdge) rest
        | 'B' => found (.anchor .noWordEdge) rest
        | '<' => found (.anchor .wordStart) rest
        | '>' => found (.anchor .wordEnd) rest
        | 'n' => plain '\n' rest
        | 't' => plain '\t' rest
        | c =>
          if c.isDigit ∧ c ≠ '0' then found (.back (c.toNat - '0'.toNat)) rest
          else plain c rest
      | c :: rest =>
        if t.isExtended ∧ (c = '+' ∨ c = '?' ∨ c = '\x7b') ∧ ¬isFirst then none else plain c rest
where
  cased (ms : List Member) : List Member :=
    if t.ignoresCase then
      ms ++ ms.flatMap fun m => match m with
        | .range a b =>
          (if a.isLower && b.isLower then [.range a.toUpper b.toUpper] else []) ++
            (if a.isUpper && b.isUpper then [.range a.toLower b.toLower] else [])
        | .named _ => []
    else ms

end

/-- The expression that a text is, and the number of its groups. -/
def Regex.ofText? (t : Notation) (s : Bytes) : Option (Regex × Nat) :=
  match alternatives t (4 * s.length + 8) 0 s with
  | some (r, groups, []) => some (r, groups)
  | _ => none

/-! ## Matching -/

/-- A place in a text: the character in front of it, the rest, how far it is from the start, and
what the groups have matched, by their starts and ends. -/
structure Spot where
  before : Option Char
  rest : Bytes
  position : Nat
  groups : List (Nat × Nat × Nat) := []

def isWordChar (c : Char) : Bool := c.isAlphanum || c == '_'

def Member.accepts (c : Char) : Member → Bool
  | .range a b => a ≤ c && c ≤ b
  | .named name => Script.inClass name c

def Anchor.holds (s : Spot) (a : Anchor) : Bool :=
  let isIn (c : Option Char) : Bool := c.any isWordChar
  let left := isIn s.before
  let right := isIn s.rest.head?
  match a with
  | .start => s.before.isNone
  | .finish => s.rest.isEmpty
  | .wordStart => !left && right
  | .wordEnd => left && !right
  | .wordEdge => left != right
  | .noWordEdge => left == right

/-- The spot behind the next character. -/
def Spot.forward (s : Spot) (c : Char) (rest : Bytes) : Spot :=
  { s with before := some c, rest, position := s.position + 1 }

/-- A repetition of what `f` finds: as often as possible first, and never twice at one place. -/
def iterate (f : Spot → List Spot) : Nat → Nat → Option Nat → Spot → List Spot
  | 0, _, _, s => [s]
  | n + 1, least, most, s =>
    if most = some 0 then [s]
    else
      let onwards := (f s).flatMap fun s' =>
        if s'.position = s.position ∧ least = 0 then []
        else iterate f n (least - 1) (most.map (· - 1)) s'
      if least = 0 then onwards ++ [s] else onwards

/-- The spots behind all matches that start at a spot; `text` is the whole text. -/
def Regex.ends (text : Bytes) : Regex → Spot → List Spot
  | .nothing, s => [s]
  | .char a, s => match s.rest with
    | c :: rest => if c = a then [s.forward c rest] else []
    | [] => []
  | .any, s => match s.rest with
    | c :: rest => [s.forward c rest]
    | [] => []
  | .set isInverted ms, s => match s.rest with
    | c :: rest => if ms.any (·.accepts c) != isInverted then [s.forward c rest] else []
    | [] => []
  | .anchor a, s => if a.holds s then [s] else []
  | .group n r, s => (r.ends text s).map fun e =>
    { e with groups := (n, s.position, e.position) :: e.groups.filter (·.1 != n) }
  | .seq a b, s => (a.ends text s).flatMap (b.ends text)
  | .alt a b, s => a.ends text s ++ b.ends text s
  | .repeated r least most, s => iterate (r.ends text) (s.rest.length + least + 1) least most s
  | .back n, s =>
    match s.groups.lookup n with
    | some (a, b) =>
      let wanted := (text.drop a).take (b - a)
      if wanted.isPrefixOf s.rest then
        [wanted.foldl (fun s c => s.forward c s.rest.tail) s]
      else []
    | none => []

/-- A match: from where to where, and its groups. -/
structure Match where
  start : Nat
  finish : Nat
  groups : List (Nat × Nat × Nat)

/-- The longest match that starts at a spot; of two the first one found. -/
def Regex.matchAt (r : Regex) (text : Bytes) (s : Spot) : Option Match :=
  let longest := (r.ends text s).foldl (fun (best : Option Spot) e => match best with
    | some b => if b.position < e.position then some e else best
    | none => some e) none
  longest.map fun e => ⟨s.position, e.position, e.groups⟩

/-- The first match from a spot on; `n` bounds the search. -/
def Regex.firstMatch (r : Regex) (text : Bytes) : Nat → Spot → Option Match
  | 0, _ => none
  | n + 1, s =>
    match r.matchAt text s, s.rest with
    | some m, _ => some m
    | none, [] => none
    | none, c :: rest => r.firstMatch text n (s.forward c rest)

/-- The spot at a position of a text. -/
def Spot.at (text : Bytes) (position : Nat) : Spot where
  before := if position = 0 then none else text[position - 1]?
  rest := text.drop position
  position

/-- The first match in a text that starts at a position or behind it. -/
def Regex.find (r : Regex) (text : Bytes) (position : Nat) : Option Match :=
  r.firstMatch text (text.length + 1) (.at text position)

end AppVersions.Machine.Tool
