-- Tools that pass texts on: whole, in part, counted, in another order, or with other characters.
import AppVersions.Machine.Script.Matching
import AppVersions.Machine.Tool.Call
import AppVersions.Machine.Tool.Format

namespace AppVersions.Machine.Tool

/-! ## Whole texts -/

/-- A line number in six columns. -/
def numbered (n : Nat) (line : Bytes) : Bytes := (Bytes.ofNat n).leftpad 6 ' ' ++ '\t' :: line

/-- A character that does not print, in visible form; tabs and line feeds are left. -/
def visible (c : Char) : Bytes :=
  let low (n : Nat) : Bytes :=
    if n < 32 then ['^', .ofNat (n + 64)] else if n = 127 then ['^', '?'] else [.ofNat n]
  if c = '\n' ∨ c = '\t' then [c]
  else if 128 ≤ c.toNat then 'M' :: '-' :: low (c.toNat - 128)
  else low c.toNat

/-- What `cat` has done so far: lines counted, and whether the last one was empty. -/
structure Numbering where
  count : Nat := 0
  afterEmpty : Bool := false

def cat : Tool := fun c => c.withOptions
    { flags := "AbeEnstTuv", long := [("number", "n"), ("number-nonblank", "b"),
        ("squeeze-blank", "s"), ("show-ends", "E"), ("show-tabs", "T"), ("show-all", "A"),
        ("show-nonprinting", "v")] } 1 false fun g => do
  let ends := g.has ["E", "A", "e"]
  let tabs := g.has ["T", "A", "t"]
  let shows := g.has ["v", "A", "e", "t"]
  let isPlain := g.options.all fun (n, _) => n == "u"
  let shape (line : Bytes) : Bytes :=
    let line := if shows then line.flatMap visible else line
    if tabs then line.flatMap fun c => if c = '\t' then ['^', 'I'] else [c] else line
  let step : Numbering × Bytes → Bytes → Numbering × Bytes := fun (n, done) line =>
    if g.has ["s"] ∧ line = [] ∧ n.afterEmpty then (n, done)
    else
      let counts := if g.has ["b"] then line ≠ [] else g.has ["n"]
      let text := if counts then numbered (n.count + 1) (shape line) else shape line
      (⟨if counts then n.count + 1 else n.count, line = []⟩,
        (text ++ if ends then ['$', '\n'] else ['\n']).reverse ++ done)
  let rec go : List Bytes → Numbering → Nat → Act Nat
    | [], _, status => return status
    | file :: files, n, status => do
      match ← Call.readInput file with
      | .error e =>
        c.blame file e
        go files n 1
      | .ok s =>
        if isPlain then
          let written ← c.emit s
          go files n (max status written)
        else
          let (n, done) := (Bytes.lines s).foldl step (n, [])
          let text := if Bytes.isOpenEnded s then done.tail.reverse else done.reverse
          let text := if Bytes.isOpenEnded s ∧ ends then text.dropLast else text
          let written ← c.emit text
          go files n (max status written)
  if (← Act.channelNumber? 1).isNone then
    c.complain ("standard output: ".toList ++ IoError.badNumber.reason.toList)
    return 1
  go (Call.inputs g.others) {} 0

def tac : Tool := fun c => c.withOptions {} 1 false fun g => do
  let complaint (file : Bytes) (e : IoError) : Act Unit := do
    c.complain ("failed to open ".toList ++ (← shellQuoted file) ++ " for reading: ".toList ++
      e.reason.toList)
  c.throughInputs g.others complaint fun s =>
    let ls := Bytes.lines s
    if Bytes.isOpenEnded s then
      match ls.reverse with
      | last :: others => last ++ Bytes.ofLines others
      | [] => []
    else Bytes.ofLines ls.reverse

/-- Every line changed, where the last one may lack its line feed. -/
def eachLine (f : Bytes → Bytes) (s : Bytes) : Bytes :=
  let s' := Bytes.ofLines ((Bytes.lines s).map f)
  if Bytes.isOpenEnded s then s'.dropLast else s'

def rev : Tool := fun c => c.withOptions {} 1 false fun g => do
  let complaint (file : Bytes) (e : IoError) : Act Unit :=
    c.complain ("cannot open ".toList ++ file ++ ": ".toList ++ e.reason.toList)
  c.throughInputs g.others complaint fun s =>
    eachLine (fun l => Bytes.ofText (.ofList (Bytes.chars l).reverse)) s

def nl : Tool := fun c => c.withOptions { valued := "bw" } 1 false fun g => do
  let all := g.value? ["b"] = some ['a']
  c.throughInputs g.others c.blame fun s =>
    let (_, done) := (Bytes.lines s).foldl (fun ((n : Nat), done) line =>
      if line = [] ∧ ¬all then (n, (List.replicate 7 ' ' ++ ['\n']) :: done)
      else (n + 1, (numbered n line ++ ['\n']) :: done)) (1, ([] : List Bytes))
    done.reverse.flatten

def tee : Tool := fun c => c.withOptions { flags := "ai" } 1 false fun g => do
  let appends := g.has ["a"]
  match ← Act.readAll 0 with
  | .error e =>
    c.complain ("read error: ".toList ++ e.reason.toList)
    return 1
  | .ok s =>
    let mut status ← c.emit s
    for file in g.others do
      match ← Act.openPath ⟨Bytes.text file⟩
          { access := { writes := true, appends }, creates := true, truncates := !appends } with
      | .error e =>
        c.blame file e
        status := 1
      | .ok k =>
        Act.setFile 98 (some k)
        let _ ← Act.write 98 s
        Act.setFile 98 none
    return status

/-! ## Parts -/

/-- How much of a text is wanted: a number of lines or bytes, counted from the other end for
`fromOther`. -/
structure Amount where
  inBytes : Bool
  fromOther : Bool
  count : Nat

/-- The amount that a value asks for, where a sign in front counts from the other end. -/
def amount? (inBytes : Bool) (sign : Char) (s : Bytes) : Option Amount :=
  match s with
  | c :: ds =>
    if c = sign then (size? ds).map fun n => ⟨inBytes, true, n⟩
    else if c = '-' ∨ c = '+' then (size? ds).map fun n => ⟨inBytes, false, n⟩
    else (size? s).map fun n => ⟨inBytes, false, n⟩
  | [] => none

/-- Options of a number alone, such as `-5`, in the long form. -/
def withoutShorthand : List Bytes → List Bytes
  | ('-' :: d :: ds) :: rest =>
    if d.isDigit then
      let n := (d :: ds).takeWhile Char.isDigit
      match (d :: ds).drop n.length with
      | [] => ['-', 'n'] :: n :: rest
      | ['c'] => ['-', 'c'] :: n :: rest
      | letters => ['-', 'n'] :: n :: ('-' :: letters) :: rest
    else ('-' :: d :: ds) :: rest
  | rest => rest

/-- The amount that the options ask for, or what is wrong with it. -/
def amountOf (sign : Char) (g : Call.Given) : Except (Bool × Bytes) Amount :=
  match (g.options.reverse.find? fun (n, _) => n == "n" || n == "c") with
  | some (letter, v) =>
    match amount? (letter == "c") sign v with
    | some a => .ok a
    | none => .error (letter == "c", v)
  | none => .ok ⟨false, false, 10⟩

/-- Goes through files under headings, which are left out for a single one. -/
def underHeadings (c : Call) (g : Call.Given) (shown : Bytes → Act (Except IoError Bytes)) :
    Act Nat := do
  let files := Call.inputs g.others
  let headed := (files.length > 1 ∧ ¬g.has ["q"]) ∨ g.has ["v"]
  let mut status := 0
  let mut isFirst := true
  for file in files do
    match ← shown file with
    | .error e =>
      if e = .isDirectory then
        c.complain ("error reading ".toList ++ (← shellQuoted file) ++ ": ".toList ++
          e.reason.toList)
      else
        c.complain ("cannot open ".toList ++ (← shellQuoted file) ++ " for reading: ".toList ++
          e.reason.toList)
      status := 1
    | .ok s =>
      let name := if file = ['-'] then "standard input".toList else file
      let heading := if headed then
        (if isFirst then [] else ['\n']) ++ "==> ".toList ++ name ++ " <==\n".toList else []
      isFirst := false
      status := max status (← c.emit (heading ++ s))
  return status

def invalidAmount (c : Call) (inBytes : Bool) (v : Bytes) : Act Nat := do
  let what := if inBytes then "invalid number of bytes: " else "invalid number of lines: "
  c.complain (what.toList ++ (← quoted v))
  return 1

def partOptions : Call.Options where
  flags := "qvzf"
  valued := "nc"
  long := [("lines", "n"), ("bytes", "c"), ("quiet", "q"), ("silent", "q"), ("verbose", "v")]

/-- Runs something with a named file as the file under the number 97. -/
def withFile {α : Type} (file : Bytes) (f : Nat → Act (Except IoError α)) :
    Act (Except IoError α) := do
  if file = ['-'] then f 0
  else
    match ← Act.openPath ⟨Bytes.text file⟩ { access := { reads := true } } with
    | .error e => return .error e
    | .ok k =>
      Act.setFile 97 (some k)
      let r ← f 97
      Act.setFile 97 none
      return r

def head : Tool := fun c =>
  let c : Call := { c with arguments := withoutShorthand c.arguments }
  c.withOptions partOptions 1 false fun g => do
  match amountOf '-' g with
  | .error (inBytes, v) => invalidAmount c inBytes v
  | .ok a =>
    underHeadings c g fun file => withFile file fun n => do
      match a.fromOther, a.inBytes with
      | false, true => Act.readBytes n a.count
      | false, false => Act.readLines n a.count
      | true, inBytes =>
        match ← Act.readAll n with
        | .error e => return .error e
        | .ok s =>
          if inBytes then return .ok (s.take (s.length - a.count))
          else
            let ls := Bytes.lines s
            let kept := ls.take (ls.length - a.count)
            let s' := Bytes.ofLines kept
            return .ok (if kept.length = ls.length ∧ Bytes.isOpenEnded s then s'.dropLast else s')

/-- The end of a text from its nth line on. -/
def fromLine : Nat → Bytes → Bytes
  | 0, s => s
  | n + 1, s =>
    match s.dropWhile (· != '\n') with
    | [] => []
    | _ :: rest => fromLine n rest

/-- A number behind a plus sign in front, in the long form. -/
def withoutPlus : List Bytes → List Bytes
  | ('+' :: ds) :: rest =>
    if ds ≠ [] ∧ ds.all Char.isDigit ∧ rest.length ≤ 1 then ['-', 'n'] :: ('+' :: ds) :: rest
    else ('+' :: ds) :: rest
  | arguments => arguments

def tail : Tool := fun c =>
  let c : Call := { c with arguments := withoutPlus (withoutShorthand c.arguments) }
  c.withOptions partOptions 1 false fun g => do
  match amountOf '+' g with
  | .error (inBytes, v) => invalidAmount c inBytes v
  | .ok a =>
    underHeadings c g fun file => withFile file fun n => do
      match ← Act.readAll n with
      | .error e => return .error e
      | .ok s =>
        match a.fromOther, a.inBytes with
        | false, true => return .ok (s.drop (s.length - a.count))
        | false, false => return .ok (fromLine ((Bytes.lines s).length - a.count) s)
        | true, true => return .ok (s.drop (a.count - 1))
        | true, false => return .ok (fromLine (a.count - 1) s)

/-! ## Counts -/

/-- The number of runs of characters that are not blank. -/
def wordCount (s : Bytes) : Nat :=
  (s.foldl (fun (n, inside) c =>
    let isBlank := Script.isSpace c
    (if !inside && !isBlank then n + 1 else n, !isBlank)) ((0 : Nat), false)).1

/-- The length of the longest line, where tabs lead to every eighth column. -/
def longestLine (s : Bytes) : Nat :=
  ((Bytes.lines s).map fun l => (Bytes.chars l).foldl (fun n c =>
    if c = '\t' then n / 8 * 8 + 8 else n + 1) 0).foldl max 0

def wc : Tool := fun c => c.withOptions
    { flags := "clmwL", long := [("bytes", "c"), ("chars", "m"), ("lines", "l"), ("words", "w"),
        ("max-line-length", "L")] } 1 false fun g => do
  let wanted := if g.options = [] then ["l", "w", "c"]
    else ["l", "w", "m", "c", "L"].filter fun n => g.has [n]
  let files := Call.inputs g.others
  let count (s : Bytes) : List Nat := wanted.map fun n => match n with
    | "l" => s.count '\n'
    | "w" => wordCount s
    | "m" => (Bytes.chars s).length
    | "c" => s.length
    | _ => longestLine s
  let sizeOf (file : Bytes) : Act (Option Nat) := do
    if file = ['-'] then
      match ← Act.channel? 0 with
      | some (.file place _ _) => match (← Act.tree).node? place with
        | some (.file _ content) => return some content.length
        | _ => return none
      | _ => return none
    else
      match (← Act.tree).find (← Act.here) ⟨Bytes.text file⟩ with
      | .ok (.file _ content) => return some content.length
      | .ok _ => return none
      | .error _ => return some 0
  let sizes ← files.mapM sizeOf
  let least := if sizes.any Option.isNone then 7 else 1
  let total := (sizes.map (·.getD 0)).foldl (· + ·) 0
  let width := if files.length = 1 ∧ wanted.length = 1 then 1
    else max least (Nat.toDigits 10 total).length
  let line (ns : List Nat) (name : Bytes) : Bytes :=
    Bytes.unwords (ns.map fun n => (Bytes.ofNat n).leftpad width ' ') ++
      (if name = [] then [] else ' ' :: name) ++ ['\n']
  let mut status := 0
  let mut sums := wanted.map fun _ => 0
  for file in files do
    match ← Call.readInput file with
    | .error e =>
      c.blame file e
      status := 1
      if e = .isDirectory then status := max status (← c.emit (line (wanted.map fun _ => 0) file))
    | .ok s =>
      let ns := count s
      sums := (sums.zip ns).map fun (a, b) => a + b
      status := max status (← c.emit (line ns (if g.others = [] then [] else file)))
  if files.length > 1 then status := max status (← c.emit (line sums "total".toList))
  return status

/-! ## Characters -/

/-- The characters that a set stands for, at most `n` parts of it. -/
def setCharacters : Nat → Bytes → Bytes
  | 0, _ | _, [] => []
  | n + 1, s =>
    let one? : Bytes × Bytes := match s with
      | '\\' :: rest => match escape .plain rest with
        | .bytes [c] rest => ([c], rest)
        | .bytes (_ :: cs) rest => (cs, rest)
        | _ => (['\\'], rest)
      | c :: rest => ([c], rest)
      | [] => ([], [])
    match s with
    | '[' :: ':' :: rest =>
      let name := rest.takeWhile (· != ':')
      match rest.drop name.length with
      | ':' :: ']' :: rest =>
        ((List.range 256).map Char.ofNat).filter (Script.inClass (.ofList name)) ++
          setCharacters n rest
      | _ => '[' :: setCharacters n (':' :: rest)
    | _ =>
      match one? with
      | ([a], '-' :: b :: rest) =>
        let (b, rest) := match b, rest with
          | '\\', d :: more => match escape .plain (d :: more) with
            | .bytes [c] more => (c, more)
            | _ => (b, rest)
          | b, rest => (b, rest)
        (List.range' a.toNat (b.toNat + 1 - a.toNat)).map Char.ofNat ++ setCharacters n rest
      | (cs, rest) => cs ++ setCharacters n rest

/-- Runs of one character of a set, as that character once. -/
def squeezed (set : Bytes) : Bytes → Bytes
  | [] => []
  | [c] => [c]
  | c :: d :: rest =>
    if c = d ∧ set.contains c then squeezed set (d :: rest) else c :: squeezed set (d :: rest)

def tr : Tool := fun c => c.withOptions
    { flags := "cCdst", long := [("delete", "d"), ("squeeze-repeats", "s"), ("complement", "c"),
        ("truncate-set1", "t")] } 1 true fun g => do
  let sets := g.others.map fun s => setCharacters (s.length + 1) s
  let first := sets.headD []
  let first := if g.has ["c", "C"] then
    ((List.range 256).map Char.ofNat).filter (!first.contains ·) else first
  let second := sets.getD 1 []
  let deletes := g.has ["d"]
  let squeezes := g.has ["s"]
  if sets = [] then c.misuse "missing operand".toList 1
  else if sets.length = 1 ∧ ¬deletes ∧ ¬squeezes then
    c.complain ("missing operand after ".toList ++ (← quoted (g.others.headD [])))
    Act.complain "Two strings must be given when translating.\n".toList
    c.pointToHelp 1
  else if sets.length = 2 ∧ deletes ∧ ¬squeezes then
    c.complain ("extra operand ".toList ++ (← quoted (g.others.getD 1 [])))
    Act.complain
      "Only one string may be given when deleting without squeezing repeats.\n".toList
    c.pointToHelp 1
  else if sets.length > 2 then
    c.misuse ("extra operand ".toList ++ (← quoted (g.others.getD 2 []))) 1
  else
    let exchange (x : Char) : Char := match first.idxOf? x with
      | some n => second.getD n (second.getLastD x)
      | none => x
    let s ← Act.readAll 0
    match s with
    | .error e =>
      c.complain ("read error: ".toList ++ e.reason.toList)
      return 1
    | .ok s =>
      let s := if deletes then s.filter (!first.contains ·)
        else if sets.length = 2 then s.map exchange else s
      let s := if squeezes then squeezed (if sets.length = 2 then second else first) s else s
      c.emit s

/-! ## Fields -/

/-- Places from one to another, counted from 1. -/
structure Span where
  low : Nat
  high : Option Nat

/-- Why a list of spans cannot be read. -/
inductive SpanFault
  | zero
  | endless
  | decreasing
  | repeated
  | invalid (rest : Bytes)

/-- The spans of a list between commas. -/
def spansOf : List Bytes → Except SpanFault (List Span)
  | [] => .ok []
  | s :: more =>
    let strange := s.dropWhile fun c => c.isDigit || c == '-'
    let span : Except SpanFault Span := match strange, s.splitOn '-' with
      | [], [n] => .ok ⟨numberOf n, some (numberOf n)⟩
      | [], [[], []] => .error .endless
      | [], [[], n] => .ok ⟨1, some (numberOf n)⟩
      | [], [n, []] => .ok ⟨numberOf n, none⟩
      | [], [m, n] => .ok ⟨numberOf m, some (numberOf n)⟩
      | [], _ => .error .repeated
      | strange, _ => .error (.invalid ([','].intercalate (strange :: more)))
    match span with
    | .error e => .error e
    | .ok span =>
      if span.low = 0 then .error .zero
      else if span.high.any (· < span.low) then .error .decreasing
      else (spansOf more).map (span :: ·)
where
  numberOf (ds : Bytes) : Nat := Nat.ofDigitChars 10 ds 0

def SpanFault.message (quote : Bytes → Bytes) (ofFields : Bool) : SpanFault → Bytes
  | .zero =>
    (if ofFields then "fields" else "byte/character positions").toList ++
      " are numbered from 1".toList
  | .endless => "invalid range with no endpoint: -".toList
  | .decreasing => "invalid decreasing range".toList
  | .repeated =>
    "invalid ".toList ++ (if ofFields then "field" else "byte or character").toList ++
      " range".toList
  | .invalid rest =>
    "invalid ".toList ++ (if ofFields then "field value" else "byte/character position").toList ++
      ' ' :: quote rest

def Span.has (s : Span) (n : Nat) : Bool := s.low ≤ n && s.high.all (n ≤ ·)

/-- The elements at the places of some spans, or all the others. -/
def atSpans {α : Type} (spans : List Span) (others : Bool) (xs : List α) : List α :=
  (xs.zip (List.range' 1 xs.length)).filterMap fun (x, n) =>
    if spans.any (·.has n) != others then some x else none

def cutOptions : Call.Options where
  flags := "snv"
  valued := "bcdfo"
  long := [("bytes", "b"), ("characters", "c"), ("complement", "v"), ("delimiter", "d"),
    ("fields", "f"), ("only-delimited", "s"), ("output-delimiter", "o")]

def cut : Tool := fun c => c.withOptions cutOptions 1 false fun g => do
  let lists := g.options.filter fun (n, _) => ["b", "c", "f"].contains n
  let ofFields := g.has ["f"]
  let delimiter := g.value? ["d"]
  if 1 < lists.length then c.misuse "only one list may be specified".toList 1
  else if delimiter.any (1 < ·.length) then
    c.misuse "the delimiter must be a single character".toList 1
  else
    match lists with
    | [] => c.misuse "you must specify a list of bytes, characters, or fields".toList 1
    | (_, list) :: _ =>
      if ¬ofFields ∧ delimiter.isSome then
        c.misuse
          "an input delimiter may be specified only when operating on fields".toList 1
      else if ¬ofFields ∧ g.has ["s"] then
        c.misuse
          "suppressing non-delimited lines makes sense\n\tonly when operating on fields".toList 1
      else
        match spansOf (list.splitOn ',') with
        | .error e => c.misuse (e.message (← quoting) ofFields) 1
        | .ok spans =>
          let d := (delimiter.getD ['\t']).headD '\x00'
          let between := (g.value? ["o"]).getD [d]
          c.throughInputs g.others c.blame fun s =>
            let pick (l : Bytes) : Option Bytes :=
              if ofFields then
                if l.contains d then
                  some (between.intercalate (atSpans spans (g.has ["v"]) (l.splitOn d)))
                else if g.has ["s"] then none else some l
              else some (atSpans spans (g.has ["v"]) l)
            Bytes.ofLines ((Bytes.lines s).filterMap pick)

/-! ## Orders -/

/-- The number that a text starts with, as digits and the number of places behind the point. -/
def leadingFraction (s : Bytes) : Int × Nat :=
  let s := s.dropWhile fun c => c == ' ' || c == '\t'
  let (isNegative, s) := match s with
    | '-' :: rest => (true, rest)
    | rest => (false, rest)
  let whole := s.takeWhile Char.isDigit
  let behind := match s.drop whole.length with
    | '.' :: rest => rest.takeWhile Char.isDigit
    | _ => []
  let n : Int := Nat.ofDigitChars 10 (whole ++ behind) 0
  (if isNegative then -n else n, behind.length)

def compareFractions (a b : Int × Nat) : Ordering :=
  compare (a.1 * Nat.pow 10 b.2) (b.1 * Nat.pow 10 a.2)

/-- How two keys are compared. -/
structure Ranking where
  isNumeric : Bool := false
  isReverse : Bool := false
  ignoresCase : Bool := false
  ignoresBlanks : Bool := false
  dictionary : Bool := false

def Ranking.ofLetters (letters : Bytes) : Ranking where
  isNumeric := letters.contains 'n' || letters.contains 'g'
  isReverse := letters.contains 'r'
  ignoresCase := letters.contains 'f'
  ignoresBlanks := letters.contains 'b'
  dictionary := letters.contains 'd'

def compareBytes (a b : Bytes) : Ordering := compare a b

def Ranking.compare (r : Ranking) (a b : Bytes) : Ordering :=
  let prepare (s : Bytes) : Bytes :=
    let s := if r.ignoresBlanks then s.dropWhile (fun c => c == ' ' || c == '\t') else s
    let s := if r.dictionary then s.filter (fun c => c.isAlphanum || c == ' ' || c == '\t') else s
    if r.ignoresCase then s.map Char.toUpper else s
  let o := if r.isNumeric then compareFractions (leadingFraction a) (leadingFraction b)
    else compareBytes (prepare a) (prepare b)
  if r.isReverse then o.swap else o

/-- A key: from which field to which, with characters in them. -/
structure Key where
  startField : Nat
  startChar : Nat
  endField : Option Nat
  endChar : Nat
  ranking : Option Ranking

def key? (s : Bytes) : Option Key :=
  let place (s : Bytes) : Nat × Nat × Bytes :=
    let f := s.takeWhile Char.isDigit
    match s.drop f.length with
    | '.' :: rest =>
      let k := rest.takeWhile Char.isDigit
      (Nat.ofDigitChars 10 f 0, Nat.ofDigitChars 10 k 0, rest.drop k.length)
    | rest => (Nat.ofDigitChars 10 f 0, 0, rest)
  let (f, k, rest) := place s
  let letters := rest.takeWhile (· != ',')
  let after := rest.drop letters.length
  let (e?, ek, letters') : Option Nat × Nat × Bytes := match after with
    | ',' :: more => let (e, ek, ls) := place more; (some e, ek, ls)
    | _ => (none, 0, [])
  let all := letters ++ letters'
  if f = 0 then none
  else some ⟨f, max k 1, e?, ek, if all = [] then none else some (.ofLetters all)⟩

/-- The fields of a line, each with the separator or the blanks in front of it. -/
def fieldsWithGaps (separator : Option Char) (line : Bytes) : List Bytes :=
  match separator with
  | some d => line.splitOn d
  | none =>
    let (fs, current, _) := line.foldl (fun (fs, current, wasBlank) c =>
      let isBlank := c == ' ' || c == '\t'
      if isBlank && !wasBlank && !current.isEmpty then (current.reverse :: fs, [c], true)
      else (fs, c :: current, isBlank)) (([] : List Bytes), ([] : Bytes), false)
    (current.reverse :: fs).reverse

def Key.of (k : Key) (separator : Option Char) (line : Bytes) : Bytes :=
  let fs := fieldsWithGaps separator line
  let fs := match k.endField with
    | some e =>
      if k.endChar = 0 then fs.take e
      else fs.take (e - 1) ++ ((fs.drop (e - 1)).take 1).map (List.take k.endChar)
    | none => fs
  let fs := fs.drop (k.startField - 1)
  let joined := match separator with
    | some d => [d].intercalate fs
    | none => fs.flatten
  joined.drop (k.startChar - 1)

def sort : Tool := fun c => c.withOptions
    { flags := "bcdfghimnrsuzV", valued := "kot", long := [("reverse", "r"), ("unique", "u"),
        ("numeric-sort", "n"), ("key", "k"), ("field-separator", "t"), ("output", "o"),
        ("ignore-case", "f"), ("stable", "s")] } 2 false fun g => do
  let letters := (g.options.filter (·.2 = [])).map fun (n, _) => n.toList.headD ' '
  let ranking := Ranking.ofLetters letters
  match g.value? ["t"] with
  | some [] =>
    c.complain "empty tab".toList
    return 2
  | some (a :: b :: rest) =>
    c.complain ("multi-character tab ".toList ++ (← quoted (a :: b :: rest)))
    return 2
  | _ => pure ()
  let separator := (g.value? ["t"]).bind List.head?
  let keys := g.options.filterMap fun (n, v) => if n = "k" then key? v else none
  let mut lines : List Bytes := []
  for file in Call.inputs g.others do
    match ← Call.readInput file with
    | .error e =>
      let what := if e = .isDirectory then "read failed: " else "cannot read: "
      c.complain (what.toList ++ (← fileText file) ++ ": ".toList ++ e.reason.toList)
      return 2
    | .ok s => lines := lines ++ Bytes.lines s
  let byKeys (a b : Bytes) : Ordering :=
    if keys = [] then ranking.compare a b
    else keys.foldl (fun o k => o.then
      ((k.ranking.getD ranking).compare (k.of separator a) (k.of separator b))) .eq
  let whole (a b : Bytes) : Ordering :=
    let o := byKeys a b
    if g.has ["s", "u"] then o
    else
      let last := compareBytes a b
      o.then (if ranking.isReverse then last.swap else last)
  if g.has ["c"] then
    let inOrder (a b : Bytes) : Bool :=
      match whole a b with
      | .lt => true
      | .eq => !g.has ["u"]
      | .gt => false
    match (lines.zip lines.tail).findIdx? fun (a, b) => !inOrder a b with
    | none => return 0
    | some n =>
      c.complain ((Call.inputs g.others).headD [] ++ ':' :: Bytes.ofNat (n + 2) ++
        ": disorder: ".toList ++ lines.getD (n + 1) [])
      return 1
  let sorted := lines.mergeSort fun a b => whole a b != .gt
  let sorted := if g.has ["u"] then
    sorted.foldr (fun l ls => match ls with
      | m :: rest => if byKeys l m = .eq then l :: rest else l :: m :: rest
      | [] => [l]) []
    else sorted
  let out := Bytes.ofLines sorted
  match g.value? ["o"] with
  | none => c.emit out
  | some file =>
    match ← Act.openPath ⟨Bytes.text file⟩
        { access := { writes := true }, creates := true, truncates := true } with
    | .error e =>
      c.complain ("open failed: ".toList ++ (← fileText file) ++ ": ".toList ++ e.reason.toList)
      return 2
    | .ok k =>
      Act.setFile 98 (some k)
      let _ ← Act.write 98 out
      Act.setFile 98 none
      return 0

/-- Lines with the number of times that each stands behind itself. -/
def runsOf (same : Bytes → Bytes → Bool) (ls : List Bytes) : List (Nat × Bytes) :=
  (ls.foldl (fun done l => match done with
    | (n, m) :: rest => if same m l then (n + 1, m) :: rest else (1, l) :: done
    | [] => [(1, l)]) ([] : List (Nat × Bytes))).reverse

/-- What follows the first `n` fields of a line and the blanks in front of each. -/
def withoutFields : Nat → Bytes → Bytes
  | 0, s => s
  | n + 1, s =>
    let isBlank (c : Char) : Bool := c == ' ' || c == '\t'
    withoutFields n ((s.dropWhile isBlank).dropWhile (!isBlank ·))

def uniq : Tool := fun c => c.withOptions
    { flags := "cdui", valued := "fs", long := [("count", "c"), ("repeated", "d"), ("unique", "u"),
        ("ignore-case", "i")] } 1 false fun g => do
  let number (letter : String) : Nat := ((g.value? [letter]).bind natural?).getD 0
  let compared (l : Bytes) : Bytes := (withoutFields (number "f") l).drop (number "s")
  let same (a b : Bytes) : Bool :=
    let (a, b) := (compared a, compared b)
    if g.has ["i"] then a.map Char.toUpper == b.map Char.toUpper else a == b
  c.throughInputs (g.others.take 1) c.blame fun s =>
    let runs := runsOf same (Bytes.lines s)
    let runs := runs.filter fun (n, _) =>
      (!g.has ["d"] || n > 1) && (!g.has ["u"] || n = 1)
    Bytes.ofLines (runs.map fun (n, l) =>
      if g.has ["c"] then (Bytes.ofNat n).leftpad 7 ' ' ++ ' ' :: l else l)

end AppVersions.Machine.Tool
