-- Patterns for the values of fields: regular expressions, of which only their form is checked.
import AppVersions.Text.Hexadecimal

namespace AppVersions.Log.Pattern

/-! ## Numbers -/

/-- Digits, with a point among them and an exponent behind them. -/
def isDecimal (cs : List Char) : Bool :=
  let whole := cs.takeWhile Char.isDigit
  let rest := cs.drop whole.length
  let (fraction, rest) := match rest with
    | '.' :: rest => (rest.takeWhile Char.isDigit, rest.dropWhile Char.isDigit)
    | rest => ([], rest)
  let isExponent : List Char → Bool
    | [] => true
    | e :: rest =>
      let digits := match rest with
        | '+' :: ds | '-' :: ds => ds
        | ds => ds
      (e == 'e' || e == 'E') && !digits.isEmpty && digits.all Char.isDigit
  !(whole ++ fraction).isEmpty && isExponent rest

/-- A number behind its sign, or the name of one that is no decimal. -/
def isNumber (cs : List Char) : Bool :=
  isDecimal cs || ["inf", "infinity", "nan"].any (·.toList == cs.map Char.toLower)

/-! ## Expressions -/

/-- The characters that a backslash makes plain, besides those that it gives a meaning. -/
def isMark (c : Char) : Bool :=
  0x21 ≤ c.toNat && c.toNat < 0x7F && !c.isAlphanum && c != '<' && c != '>'

/-- The rest after the escape of a character: a mark, a letter for a control, or a letter with its
code in hexadecimal. Classes of letters and words are not known. -/
def afterEscape (cs : List Char) : Option (List Char) :=
  match cs with
  | [] => none
  | c :: rest =>
    let coded (digits : Nat) : Option (List Char) :=
      (Text.numberedChar? digits rest).map Prod.snd
    if isMark c || "aftnrv".toList.contains c then some rest
    else if c = 'x' then coded 2
    else if c = 'u' then coded 4
    else if c = 'U' then coded 8
    else none

/-- The rest after a class of characters whose opening bracket was read; `fresh` until it has a
member. A bracket at the start is a member, a range does not run backwards, and classes may hold
classes. `n` bounds the length. -/
def afterClass : Nat → Nat → Bool → List Char → Option (List Char)
  | 0, _, _, _ | _, _, _, [] => none
  | n + 1, depth, _, '\\' :: cs => (afterEscape cs).bind (afterClass n depth false)
  | n + 1, depth, true, '^' :: ']' :: rest => afterClass n depth false rest
  | n + 1, depth, _, '[' :: ']' :: rest => afterClass n (depth + 1) false rest
  | n + 1, depth, _, '[' :: rest => afterClass n (depth + 1) true rest
  | _, 0, false, ']' :: rest => some rest
  | n + 1, depth + 1, false, ']' :: rest => afterClass n depth false rest
  | n + 1, depth, _, c :: '-' :: d :: rest =>
    if d = ']' ∨ d = '-' then afterClass n depth false ('-' :: d :: rest)
    else if d = '\\' then (afterEscape rest).bind (afterClass n depth false)
    else if c ≤ d then afterClass n depth false rest
    else none
  | n + 1, depth, _, _ :: rest => afterClass n depth false rest

/-- What an opening parenthesis begins: a group, or flags for the rest of the group around it. -/
inductive Opening
  | group (folds : Bool) (rest : List Char)
  | flags (folds : Bool) (rest : List Char)

/-- Whether letters are to be matched in any case behind some flags. -/
def foldsAfter (folds : Bool) (flags : List Char) : Bool :=
  let plus := flags.takeWhile (· != '-')
  let minus := flags.drop plus.length
  (folds || plus.contains 'i') && !minus.contains 'i' && !minus.contains 'u'

/-- Reads what may stand behind an opening parenthesis: nothing, a mark of a group without number, a
name, or flags. -/
def opening? (folds : Bool) (cs : List Char) : Option Opening :=
  match cs with
  | '?' :: 'P' :: '<' :: rest | '?' :: '<' :: rest =>
    match rest.dropWhile (fun c => c.isAlphanum || c == '_') with
    | '>' :: after =>
      if rest.head?.any (fun c => c.isAlpha || c == '_') then some (.group folds after) else none
    | _ => none
  | '?' :: rest =>
    let flags := rest.takeWhile fun c => "imsUuxR-".toList.contains c
    match rest.drop flags.length with
    | ':' :: after => some (.group (foldsAfter folds flags) after)
    | ')' :: after => if flags = [] then none else some (.flags (foldsAfter folds flags) after)
    | _ => none
  | cs => some (.group folds cs)

/-- Whether the rest of an expression has the right form; `outer` tells for every open parenthesis
whether letters around it are to be matched in any case, and `folds` whether letters here are, which
is not known how to do; `operand` tells whether something that can be repeated stands before the
rest, and `n` bounds its length. -/
def isWellFormedFrom : Nat → List Bool → Bool → Bool → List Char → Bool
  | _, outer, _, _, [] => outer.isEmpty
  | 0, _, _, _, _ => false
  | n + 1, outer, folds, operand, c :: rest =>
    if c = '(' then
      match opening? folds rest with
      | some (.group inner rest) => isWellFormedFrom n (folds :: outer) inner false rest
      | some (.flags folds rest) => isWellFormedFrom n outer folds false rest
      | none => false
    else if c = ')' then
      match outer with
      | [] => false
      | folds :: outer => isWellFormedFrom n outer folds true rest
    else if c = '|' then isWellFormedFrom n outer folds false rest
    else if c = '*' ∨ c = '+' ∨ c = '?' then operand && isWellFormedFrom n outer folds true rest
    else if c = '\x7b' then false
    else if c = '[' then
      let start := match rest with
        | ']' :: more => (false, more)
        | more => (true, more)
      match afterClass rest.length 0 start.1 start.2 with
      | some rest => !folds && isWellFormedFrom n outer folds true rest
      | none => false
    else if c = '\\' then
      match rest with
      | 'A' :: rest | 'z' :: rest => isWellFormedFrom n outer folds true rest
      | rest =>
        match afterEscape rest with
        | some rest => !folds && isWellFormedFrom n outer folds true rest
        | none => false
    else (!folds || ".^$".toList.contains c) && isWellFormedFrom n outer folds true rest

/-- Whether a value can be looked for: a number with a plus sign, or any expression. -/
def isReadable (cs : List Char) : Bool :=
  match cs with
  | '+' :: rest => isNumber rest
  | cs => isWellFormedFrom cs.length [] false false cs

end AppVersions.Log.Pattern
