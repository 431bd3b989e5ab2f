-- Formats with arguments, as the printing commands write them: escapes, fields of a width, and
-- numbers in several bases.
import AppVersions.Machine.Script.Arithmetic
import AppVersions.Number.Binary64

namespace AppVersions.Machine.Tool

open Script (digitValue digitsOf unsigned leadingNumber isSpace)

/-! ## Escapes -/

/-- What an escape comes to: bytes and the text behind it, or the end of all output. -/
inductive Escaped
  | bytes (s rest : Bytes)
  | finish

/-- Which escapes there are: the plain ones, also those of the tool that prints lines, or also those
of the tool that prints formats. -/
inductive EscapeStyle
  | plain
  | ofLines
  | ofTool
  deriving DecidableEq

def isOctal (c : Char) : Bool := '0' ≤ c && c ≤ '7'

/-- Digits of a base, at most so many, as a number and the rest. -/
def someDigits (base most : Nat) (s : Bytes) : Option (Nat × Bytes) :=
  let ds := (s.take most).takeWhile fun c => digitValue c < base
  if ds = [] then none else some ((digitsOf base ds).1, s.drop ds.length)

/-- Escapes of one letter, and the bytes that they stand for. -/
def letterEscapes : List (Char × Nat) :=
  [('\\', 92), ('a', 7), ('b', 8), ('e', 27), ('f', 12), ('n', 10), ('r', 13), ('t', 9), ('v', 11)]

/-- An escape, from what follows its backslash; one that is none stands for itself. -/
def escape (style : EscapeStyle) (s : Bytes) : Escaped :=
  match s with
  | [] => .bytes ['\\'] []
  | c :: rest =>
    match letterEscapes.lookup c, someDigits 8 3 s with
    | some b, _ => .bytes [.ofNat b] rest
    | none, some (n, rest) => .bytes [.ofNat (n % 256)] rest
    | none, none =>
      let code (most : Nat) : Escaped := match someDigits 16 most rest with
        | some (n, rest) => .bytes (.ofText (.singleton (.ofNat n))) rest
        | none => .bytes ['\\', c] rest
      match style, c with
      | .ofTool, '"' => .bytes ['"'] rest
      | .ofTool, 'c' | .ofLines, 'c' => .finish
      | .ofTool, 'x' | .ofLines, 'x' =>
        match someDigits 16 2 rest with
        | some (n, rest) => .bytes [.ofNat n] rest
        | none => .bytes ['\\', c] rest
      | .ofTool, 'u' => code 4
      | .ofTool, 'U' => code 8
      | _, _ => .bytes ['\\', c] rest

/-- A text with its escapes replaced, and whether an escape ended all output; octal numbers may have
a zero in front. `n` bounds the length. -/
def unescape (style : EscapeStyle) : Nat → Bytes → Bytes × Bool
  | 0, _ | _, [] => ([], false)
  | _ + 1, '\\' :: 'c' :: _ => ([], true)
  | n + 1, '\\' :: s =>
    let s := match s with
      | '0' :: d :: more => if isOctal d then d :: more else s
      | _ => s
    match escape style s with
    | .finish => ([], true)
    | .bytes bs rest =>
      let (more, ended) := unescape style n rest
      (bs ++ more, ended)
  | n + 1, c :: s =>
    let (more, ended) := unescape style n s
    (c :: more, ended)

/-! ## Fields -/

/-- A number as a format wants it: a quotient, or none of the numbers. -/
inductive Quantity
  | quotient (isNegative : Bool) (num den : Nat)
  | infinite (isNegative : Bool)
  | undefined (isNegative : Bool)

/-- How a value is fitted into a format. -/
structure Fit where
  left : Bool := false
  zeros : Bool := false
  plus : Bool := false
  blank : Bool := false
  alternate : Bool := false
  width : Nat := 0
  precision : Option Nat := none

namespace Fit

def pad (f : Fit) (s : Bytes) : Bytes :=
  if f.left then s.rightpad f.width ' ' else s.leftpad f.width ' '

def signOf (f : Fit) (isNegative : Bool) : Bytes :=
  if isNegative then ['-'] else if f.plus then ['+'] else if f.blank then [' '] else []

/-- Digits behind their sign or mark, where zeros may fill the width. -/
def number (f : Fit) (mark digits : Bytes) (isWhole : Bool) : Bytes :=
  let digits := if isWhole then digits.leftpad (f.precision.getD 1) '0' else digits
  let fills := f.zeros && !f.left && (!isWhole || f.precision.isNone)
  let digits := if fills then digits.leftpad (f.width - mark.length) '0' else digits
  f.pad (mark ++ digits)

/-- A whole number in the base that a letter stands for. -/
def whole (f : Fit) (letter : Char) (n : Int) : Bytes :=
  let digits (base : Nat) (n : Nat) : Bytes :=
    if n = 0 ∧ f.precision = some 0 then [] else Nat.toDigits base n
  let bits := (n.emod 18446744073709551616).toNat
  match letter with
  | 'x' => f.number (if f.alternate && bits != 0 then ['0', 'x'] else []) (digits 16 bits) true
  | 'X' =>
    f.number (if f.alternate && bits != 0 then ['0', 'X'] else [])
      ((digits 16 bits).map Char.toUpper) true
  | 'o' =>
    let ds := digits 8 bits
    f.number [] (if f.alternate && ds.head? != some '0' then '0' :: ds else ds) true
  | 'u' => f.number [] (digits 10 bits) true
  | _ => f.number (f.signOf (n < 0)) (digits 10 n.natAbs) true

/-! ## Fractions -/

/-- Digits in front of a point and behind it; the point stands alone only if it is asked for. -/
def pointed (f : Fit) (whole behind : Bytes) : Bytes :=
  if behind = [] ∧ ¬f.alternate then whole else whole ++ '.' :: behind

/-- The decimal fraction with `places` places nearest to a quotient. -/
def fixed (f : Fit) (num den places : Nat) : Bytes :=
  let n := Number.Binary64.roundDiv (num * Nat.pow 10 places) den
  let ds := (Nat.toDigits 10 n).leftpad (places + 1) '0'
  f.pointed (ds.take (ds.length - places)) (ds.drop (ds.length - places))

/-- The power of ten of the first digit of a quotient that is not zero, sought from `k` downwards.
-/
def magnitude (num den : Nat) : Nat → Int → Int
  | 0, k => k
  | n + 1, k =>
    let reached := if 0 ≤ k then den * Nat.pow 10 k.toNat ≤ num
      else den ≤ num * Nat.pow 10 (-k).toNat
    if reached then k else magnitude num den n (k - 1)

/-- The digits of a quotient from its first one on, and the power of ten of that one. -/
def leadingDigits (num den places : Nat) : Bytes × Int :=
  if num = 0 then (List.replicate (places + 1) '0', 0)
  else
    let start : Int := (Nat.toDigits 10 num).length - (Nat.toDigits 10 den).length + 1
    let k := magnitude num den 4 start
    let shift := (places : Int) - k
    let n := if 0 ≤ shift then Number.Binary64.roundDiv (num * Nat.pow 10 shift.toNat) den
      else Number.Binary64.roundDiv num (den * Nat.pow 10 (-shift).toNat)
    let ds := Nat.toDigits 10 n
    if ds.length = places + 2 then (ds.dropLast, k + 1) else (ds, k)

def scientific (f : Fit) (num den places : Nat) : Bytes :=
  let (ds, k) := leadingDigits num den places
  let power := (Nat.toDigits 10 k.natAbs).leftpad 2 '0'
  f.pointed (ds.take 1) (ds.drop 1) ++ 'e' :: (if k < 0 then '-' else '+') :: power

/-- A fraction without the zeros at its end. -/
def withoutZeros (s : Bytes) : Bytes :=
  let mantissa := s.takeWhile (· != 'e')
  let power := s.drop mantissa.length
  if mantissa.contains '.' then
    let kept := (mantissa.reverse.dropWhile (· == '0')).dropWhile (· == '.')
    kept.reverse ++ power
  else s

/-- A quotient as a letter asks for it. -/
def quotientText (f : Fit) (lower : Char) (num den : Nat) : Bytes :=
  let places := f.precision.getD 6
  if lower = 'f' then f.fixed num den places
  else if lower = 'e' then f.scientific num den places
  else
    let digits := max places 1
    let (_, k) := leadingDigits num den (digits - 1)
    let s := if k < -4 ∨ (digits : Int) ≤ k then f.scientific num den (digits - 1)
      else f.fixed num den ((digits : Int) - 1 - k).toNat
    if f.alternate then s else withoutZeros s

/-- A quantity as a letter asks for it; zeros fill the width of quotients only. -/
def fraction (f : Fit) (letter : Char) (q : Quantity) : Bytes :=
  let shaped (body : Bytes) : Bytes := if letter.isUpper then body.map Char.toUpper else body
  match q with
  | .quotient isNegative num den =>
    f.number (f.signOf isNegative) (shaped (f.quotientText letter.toLower num den)) false
  | .infinite isNegative =>
    { f with zeros := false }.number (f.signOf isNegative) (shaped "inf".toList) false
  | .undefined isNegative =>
    { f with zeros := false }.number (f.signOf isNegative) (shaped "nan".toList) false

end Fit

/-! ## Arguments -/

/-- What is wrong with an argument that should be a number. -/
inductive NumberFault
  | none
  | notNumeric
  | partly
  | outOfRange
  deriving DecidableEq

/-- A whole number from an argument. -/
def wholeArgument (isSigned : Bool) (s : Bytes) : Int × NumberFault :=
  let (n, rest) := leadingNumber unsigned s
  let (exact, _) := unclamped s
  let bounded := if isSigned then n
    else if exact < 0 then exact else min exact 18446744073709551615
  let fault : NumberFault :=
    if rest ≠ [] then if rest.length = s.length then .notNumeric else .partly
    else if bounded ≠ exact then .outOfRange else .none
  (bounded, fault)
where
  unclamped (s : Bytes) : Int × Bytes :=
    let body := s.dropWhile isSpace
    match body with
    | '-' :: ds => (-((unsigned ds).1 : Int), [])
    | '+' :: ds => ((unsigned ds).1, [])
    | ds => ((unsigned ds).1, [])

/-- Digits with a point among them and a power behind a mark, as a quotient, and the rest. -/
def numeral? (base powerBase : Nat) (mark : Char) (s : Bytes) : Option (Nat × Nat × Bytes) :=
  let isDigit (c : Char) : Bool := digitValue c < base
  let whole := s.takeWhile isDigit
  let rest := s.drop whole.length
  let (behind, rest) := match rest with
    | '.' :: more => (more.takeWhile isDigit, more.dropWhile isDigit)
    | rest => ([], rest)
  if whole = [] ∧ behind = [] then none
  else
    let (power, rest) : Int × Bytes := match rest with
      | c :: more =>
        let (sign, ds) := match more with
          | '-' :: ds => (-1, ds)
          | '+' :: ds => (1, ds)
          | ds => ((1 : Int), ds)
        if c.toLower == mark && ds.head?.any Char.isDigit then
          (sign * (digitsOf 10 ds).1, ds.dropWhile Char.isDigit)
        else (0, rest)
      | [] => (0, [])
    let n := (digitsOf base (whole ++ behind)).1
    let scale := Nat.pow base behind.length
    let shift := Nat.pow powerBase (min maxPower power.natAbs)
    some (if 0 ≤ power then (n * shift, scale, rest) else (n, scale * shift, rest))
where
  /-- Powers beyond this one make no difference. -/
  maxPower : Nat := 20000

/-- A quantity from the start of a text, and the rest. -/
def quantity? (s : Bytes) : Option (Quantity × Bytes) :=
  let body := s.dropWhile isSpace
  let (isNegative, body) := match body with
    | '-' :: rest => (true, rest)
    | '+' :: rest => (false, rest)
    | rest => (false, rest)
  let behind? (name : String) : Option Bytes :=
    if (body.take name.length).map Char.toLower = name.toList then some (body.drop name.length)
    else none
  let ofNumeral (n : Option (Nat × Nat × Bytes)) : Option (Quantity × Bytes) :=
    n.map fun (num, den, rest) => (.quotient isNegative num den, rest)
  match (behind? "infinity").orElse fun _ => behind? "inf", behind? "nan", behind? "0x" with
  | some rest, _, _ => some (.infinite isNegative, rest)
  | none, some rest, _ => some (.undefined isNegative, withoutNote rest)
  | none, none, some hexadecimal =>
    (ofNumeral (numeral? 16 2 'p' hexadecimal)).orElse fun _ => ofNumeral (numeral? 10 10 'e' body)
  | none, none, none => ofNumeral (numeral? 10 10 'e' body)
where
  /-- The text behind a note in brackets. -/
  withoutNote (s : Bytes) : Bytes :=
    match s with
    | '(' :: note =>
      match note.dropWhile fun c => c.isAlphanum || c == '_' with
      | ')' :: rest => rest
      | _ => s
    | s => s

/-- What numbers there are: those of so many bits, with a last bit of at least 2 to the power
`least`, below 2 to the power `beyond`. -/
structure Numbers where
  bits : Nat
  least : Int
  beyond : Nat

/-- The number nearest to a quotient, and whether that is out of range: too great, or too small to
be exact. -/
def Numbers.nearest (ns : Numbers) (num den : Nat) : Option (Nat × Nat) × Bool :=
  if num = 0 then (some (0, 1), false)
  else
    let power (e : Int) : Nat := Nat.pow 2 e.toNat
    let scaled (e : Int) : Nat := Number.Binary64.roundDiv (num * power (-e)) (den * power e)
    let first := max ns.least ((num.log2 : Int) - den.log2 - ns.bits)
    let e := if Nat.pow 2 ns.bits ≤ scaled first then first + 1 else first
    let n := scaled e
    if power ns.beyond ≤ n * power e / power (-e) then (none, true)
    else
      let isInexact := n * power e * den != num * power (-e)
      (some (n * power e, power (-e)), isInexact && n < Nat.pow 2 (ns.bits - 1))

/-! ## Formats -/

/-- Who prints: the shell itself or the tool. They differ in their escapes, in their numbers, in
what a quote in front of a character means, in how the numbers for stars are bounded, and in what
they say. -/
structure Printer where
  style : EscapeStyle
  numbers : Numbers
  code? : Bytes → Option (Nat × Bytes)
  bounded? : Int → Option Int
  fault : NumberFault → Bytes → Bytes
  excess : Bytes → Option Bytes

/-- Why a format cannot be followed; the text is the directive or the number in question. -/
inductive FormatFault
  | directive (s : Bytes)
  | width (s : Bytes)
  | precision (s : Bytes)
  | tooWide

/-- What has been printed and said so far, and the arguments that are left. -/
structure Printing where
  arguments : List Bytes
  output : List Bytes := []
  said : List Bytes := []
  hasFailed : Bool := false
  isUsed : Bool := false
  isOver : Bool := false
  fault : Option FormatFault := none

namespace Printing

def put (p : Printing) (s : Bytes) : Printing := { p with output := s :: p.output }

/-- The next argument; one that is missing is empty. -/
def next (p : Printing) : Option Bytes × Printing :=
  (p.arguments.head?, { p with arguments := p.arguments.tail, isUsed := true })

def stop (p : Printing) (fault : FormatFault) : Printing :=
  { p with fault := some fault, isOver := true }

def say (p : Printing) (printer : Printer) (fault : NumberFault) (s : Bytes) : Printing :=
  if fault = .none then p
  else { p with said := printer.fault fault s :: p.said, hasFailed := true }

/-- The whole number that an argument is. A quote in it stands for the code of a character. -/
def whole (printer : Printer) (isSigned : Bool) (p : Printing) (s : Bytes) : Int × Printing :=
  match printer.code? s with
  | some (n, rest) => (n, { p with said := (printer.excess rest).toList ++ p.said })
  | none =>
    let (n, fault) := wholeArgument isSigned s
    (n, p.say printer fault s)

/-- The quantity that an argument is. A quote in it stands for the code of a character. -/
def quantity (printer : Printer) (p : Printing) (s : Bytes) : Quantity × Printing :=
  match printer.code? s, quantity? s with
  | some (n, rest), _ =>
    (.quotient false n 1, { p with said := (printer.excess rest).toList ++ p.said })
  | none, none => (.quotient false 0 1, p.say printer (if s = [] then .none else .notNumeric) s)
  | none, some (.quotient isNegative num den, rest) =>
    let (nearest, isOutOfRange) := printer.numbers.nearest num den
    let fault : NumberFault :=
      if rest ≠ [] then .partly else if isOutOfRange then .outOfRange else .none
    let q : Quantity := match nearest with
      | some (num, den) => .quotient isNegative num den
      | none => .infinite isNegative
    (q, p.say printer fault s)
  | none, some (q, rest) => (q, p.say printer (if rest = [] then .none else .partly) s)

/-- Fields do not grow beyond this width, and numbers not beyond this many digits. -/
def maxWidth : Nat := 16777216

/-- Greater numbers than this one make a format useless. -/
def maxCount : Nat := 2147483647

/-- A number that may be given as a star; `fault` says what is wrong with one out of bounds. -/
def count (printer : Printer) (fault : Bytes → FormatFault) (p : Printing) (s : Bytes) :
    Option Int × Bytes × Printing :=
  match s with
  | '*' :: rest =>
    let (arg, p) := p.next
    let s := arg.getD []
    let (n, p) := p.whole printer true s
    match printer.bounded? n with
    | some n => if maxCount < n.natAbs then (none, rest, p.stop .tooWide) else (some n, rest, p)
    | none => (none, rest, p.stop (fault s))
  | s =>
    let ds := s.takeWhile Char.isDigit
    let rest := s.drop ds.length
    let n := Nat.ofDigitChars 10 ds 0
    if ds = [] then (none, rest, p)
    else if maxCount < n then (none, rest, p.stop .tooWide)
    else (some n, rest, p)

/-- The marks that may follow a percent sign. -/
def marks (style : EscapeStyle) : List Char :=
  if style = .ofTool then "-+ 0#\x27I".toList else "-+ 0#".toList

/-- What stands behind a percent sign, up to the letter; the first answer are the marks. -/
def fit (printer : Printer) (p : Printing) (s : Bytes) : Bytes × Fit × Bytes × Printing :=
  let marks := s.takeWhile fun c => (Printing.marks printer.style).contains c
  let (width, rest, p) := count printer .width p (s.drop marks.length)
  let width := width.getD 0
  let f : Fit := { left := marks.contains '-' || width < 0, zeros := marks.contains '0'
                   plus := marks.contains '+', blank := marks.contains ' '
                   alternate := marks.contains '#', width := min maxWidth width.natAbs }
  match rest with
  | '.' :: rest =>
    let (precision, rest, p) := count printer .precision p rest
    let n := precision.getD 0
    let precision := if n < 0 then none else some (min maxWidth n.toNat)
    ('.' :: marks, { f with precision }, rest, p)
  | rest => (marks, f, rest, p)

/-- Whether a letter goes with the marks and the precision in front of it, as the tool sees it. -/
def admits (marks : Bytes) (letter : Char) : Bool :=
  !(marks.contains '#' && "cdisu".toList.contains letter) &&
    !(marks.contains '0' && "cs".toList.contains letter) &&
    !(marks.contains '.' && letter == 'c') &&
    !((marks.contains '\x27' || marks.contains 'I') && "ceEosxX".toList.contains letter)

/-- Writes the next argument as a letter asks for it. -/
def convert (printer : Printer) (f : Fit) (letter : Char) (p : Printing) : Printing :=
  let (arg, p) := p.next
  let s := arg.getD []
  let cut (s : Bytes) : Bytes := s.take (f.precision.getD s.length)
  if letter = 's' then p.put (f.pad (cut s))
  else if letter = 'c' then p.put (f.pad [s.headD '\x00'])
  else if letter = 'b' then
    let (s, isOver) := unescape printer.style s.length s
    { p.put (f.pad (cut s)) with isOver }
  else if "diouxX".toList.contains letter then
    let (n, p) := p.whole printer (letter == 'd' || letter == 'i') s
    p.put (f.whole letter n)
  else
    let (q, p) := p.quantity printer s
    p.put (f.fraction letter q)

/-- Letters in front of the one that counts, which tell the length of a number and change nothing.
-/
def isLengthMark (c : Char) : Bool := "lLhjtz".toList.contains c

/-- One pass over a format, in at most `n` steps. -/
def pass (printer : Printer) : Nat → Bytes → Printing → Printing
  | 0, _, p | _, [], p => p
  | n + 1, '\\' :: rest, p =>
    match escape printer.style rest with
    | .finish => { p with isOver := true }
    | .bytes bs rest => pass printer n rest (p.put bs)
  | n + 1, '%' :: '%' :: rest, p => pass printer n rest (p.put ['%'])
  | n + 1, '%' :: rest, p =>
    let (marks, f, after, p) := p.fit printer rest
    if p.isOver then p
    else
      let isTool := printer.style == .ofTool
      let after := if isTool then after.dropWhile isLengthMark else after
      match after with
      | [] => p.stop (.directive [])
      | letter :: after =>
        let isKnown := "sbcdiouxXeEfFgG".toList.contains letter
        let isFit := !isTool ||
          (admits marks letter && (letter != 'b' || rest.length == after.length + 1))
        if isKnown && isFit then
          let p := convert printer f letter p
          if p.isOver then p else pass printer n after p
        else p.stop (.directive ('%' :: rest.take (rest.length - after.length)))
  | n + 1, c :: rest, p => pass printer n rest (p.put [c])

/-- The format, again and again as long as it takes arguments and some are left. -/
def passes (printer : Printer) (format : Bytes) : Nat → Printing → Printing
  | 0, p => p
  | n + 1, p =>
    let p := pass printer (format.length + 1) format { p with isUsed := false }
    if p.isOver || p.arguments.isEmpty || !p.isUsed then p else passes printer format n p

def run (printer : Printer) (format : Bytes) (arguments : List Bytes) : Printing :=
  passes printer format (arguments.length + 1) { arguments }

def text (p : Printing) : Bytes := p.output.reverse.flatten

end Printing

end AppVersions.Machine.Tool
