-- Tools that print: their arguments, formats, numbers in a row, and one line without end.
import AppVersions.Machine.Tool.Call
import AppVersions.Machine.Tool.Format

namespace AppVersions.Machine.Tool

/-! ## Lines of arguments -/

/-- The arguments as a line. Letters in front of them leave the line open, or ask for escapes or for
none. -/
def echoed (escapes : Bool) (arguments : List Bytes) : Bytes :=
  let isOption (s : Bytes) : Bool := match s with
    | '-' :: c :: cs => (c :: cs).all fun c => c == 'n' || c == 'e' || c == 'E'
    | _ => false
  let options := (arguments.takeWhile isOption).flatMap List.tail
  let isOpen := options.contains 'n'
  let escapes := (options.filter (· != 'n')).getLast?.elim escapes (· == 'e')
  let s := Bytes.unwords (arguments.dropWhile isOption)
  let (s, isOver) := if escapes then unescape .ofLines s.length s else (s, false)
  if isOpen || isOver then s else s ++ ['\n']

def echo : Tool := fun c => c.emit (echoed false c.arguments)

/-- The longest that a line of `yes` may have to be repeated for. -/
def manyBytes : Nat := 65536

/-- The same line again and again, until nobody reads on; `n` bounds the rounds. -/
def repeatLines (c : Call) (chunk : Bytes) : Nat → Act Nat
  | 0 => return 0
  | n + 1 => do
    let status ← c.emit chunk
    if status = 0 then repeatLines c chunk n else return status

def yes : Tool := fun c => do
  let line := (if c.arguments = [] then ['y'] else Bytes.unwords c.arguments) ++ ['\n']
  let chunk := (List.replicate (manyBytes / line.length + 1) line).flatten
  repeatLines c chunk 1024

/-! ## Formats -/

/-- The tool, which puts texts between quotes and may know more than the ASCII characters. -/
def toolPrinter (quote : Bytes → Bytes) (knowsUnicode : Bool) : Printer where
  style := .ofTool
  numbers := { bits := 64, least := -16445, beyond := 16384 }
  code? s := match s with
    | '"' :: c :: cs | '\x27' :: c :: cs =>
      match if knowsUnicode then Bytes.first? (c :: cs) else none with
      | some (d, rest) => some (d.toNat, rest)
      | none => some (c.toNat, cs)
    | _ => none
  bounded? n := if -2147483648 ≤ n ∧ n ≤ 2147483647 then some n else none
  excess s := if s = [] then none
    else some ("warning: ".toList ++ s ++
      ": character(s) following character constant have been ignored".toList)
  fault f s := match f with
    | .none => []
    | .notNumeric => quote s ++ ": expected a numeric value".toList
    | .partly => quote s ++ ": value not completely converted".toList
    | .outOfRange => quote s ++ ": Numerical result out of range".toList

def printf : Tool := fun c => do
  match c.arguments.dropWhile (· == ['-', '-']) with
  | [] => c.misuse "missing operand".toList 1
  | format :: arguments =>
    let quote ← quoting
    let p := Printing.run (toolPrinter quote (← knowsUnicode)) format arguments
    let status ← c.emit p.text
    for s in p.said.reverse do c.complain s
    match p.fault with
    | some fault =>
      c.complain (match fault with
        | .directive [] => "%: invalid conversion specification".toList
        | .directive s => s ++ ": invalid conversion specification".toList
        | .width s => "invalid field width: ".toList ++ quote s
        | .precision s => "invalid precision: ".toList ++ quote s
        | .tooWide => "write error".toList)
      return 1
    | none =>
      if !p.isOver then
        match p.arguments with
        | s :: _ =>
          c.complain ("warning: ignoring excess arguments, starting with ".toList ++ quote s)
        | [] => pure ()
      return if p.hasFailed then 1 else status

/-! ## Numbers in a row -/

/-- A decimal fraction with so many places, from its digits. -/
def placed (places : Nat) (n : Int) : Bytes :=
  let ds := (Nat.toDigits 10 n.natAbs).leftpad (places + 1) '0'
  let whole := ds.take (ds.length - places)
  let body := if places = 0 then whole else whole ++ '.' :: ds.drop whole.length
  if n < 0 then '-' :: body else body

/-- The numbers from one to another in steps, at most `n` of them. -/
def inSteps (step last : Int) : Nat → Int → List Int
  | 0, _ => []
  | n + 1, k =>
    if (0 < step ∧ last < k) ∨ (step < 0 ∧ k < last) then []
    else k :: inSteps step last n (k + step)

def seq : Tool := fun c => do
  let isNumber (s : Bytes) : Bool := (fraction? s).isSome
  let rec options : Nat → List Bytes → Bytes → Bool → Option Bytes × Bool × List Bytes
    | 0, rest, s, w => (some s, w, rest)
    | n + 1, rest, s, w =>
      match rest with
      | ['-', 'w'] :: rest => options n rest s true
      | ['-', 's'] :: v :: rest => options n rest v w
      | ('-' :: 's' :: v) :: rest => options n rest v w
      | rest => (some s, w, rest)
  let (separator?, isWide, arguments) := options (c.arguments.length + 1) c.arguments ['\n'] false
  let separator := separator?.getD ['\n']
  match arguments.find? (!isNumber ·) with
  | some s => c.misuse ("invalid floating point argument: ".toList ++ (← quoted s)) 1
  | none =>
    let numbers := arguments.filterMap fraction?
    let range? : Option ((Int × Nat) × (Int × Nat) × (Int × Nat)) := match numbers with
      | [last] => some ((1, 0), (1, 0), last)
      | [first, last] => some (first, (1, 0), last)
      | [first, step, last] => some (first, step, last)
      | _ => none
    match range?, arguments[3]? with
    | none, some s => c.misuse ("extra operand ".toList ++ (← quoted s)) 1
    | none, none => c.misuse "missing operand".toList 1
    | some (first, step, last), _ =>
      if step.1 = 0 then
        c.misuse ("invalid Zero increment value: ".toList ++ (← quoted (arguments.getD 1 []))) 1
      else
        let places := max first.2 step.2
        let finest := max places last.2
        let at' (x : Int × Nat) : Int := x.1 * Nat.pow 10 (finest - x.2)
        let count := ((at' last - at' first).natAbs / (at' step).natAbs) + 1
        let found := inSteps (at' step) (at' last) (min count 1000000) (at' first)
        let texts := found.map fun n => placed places (n / Nat.pow 10 (finest - places))
        let width := (texts.map List.length).foldl max 0
        let widen (s : Bytes) : Bytes := match s with
          | '-' :: ds => '-' :: ds.leftpad (width - 1) '0'
          | ds => ds.leftpad width '0'
        let texts := if isWide then texts.map widen else texts
        match texts with
        | [] => return 0
        | texts => c.emit (separator.intercalate texts ++ ['\n'])

end AppVersions.Machine.Tool
