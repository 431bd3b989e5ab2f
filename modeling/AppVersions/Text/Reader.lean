-- Readers: functions that take characters off the front of a text and answer a value and the rest,
-- or a fault.

namespace AppVersions

/-- Takes characters off the front of a text, or fails. -/
abbrev Reader (ε α : Type) := StateT (List Char) (Except ε) α

namespace Reader

variable {ε α : Type}

/-- The next character, left in place. -/
def peek : Reader ε (Option Char) := fun cs => .ok (cs.head?, cs)

/-- The next character, taken off. -/
def next : Reader ε (Option Char) := fun cs => .ok (cs.head?, cs.tail)

def fail (e : ε) : Reader ε α := fun _ => .error e

def ofExcept (r : Except ε α) : Reader ε α := fun cs => r.map fun a => (a, cs)

/-- Passes over the longest run of `p`. -/
def skipWhile (p : Char → Bool) : Reader ε Unit := fun cs => .ok ((), cs.dropWhile p)

/-- Takes off the longest run of `p`. -/
def takeWhile (p : Char → Bool) : Reader ε (List Char) :=
  fun cs => .ok (cs.takeWhile p, cs.dropWhile p)

/-- How many characters are left. -/
def left : Reader ε Nat := fun cs => .ok (cs.length, cs)

/-! ## Repetition -/

/-- Runs `step` until it answers nothing, at most `n` times. -/
def loop {σ : Type} (exhausted : ε) (step : σ → Reader ε (Option σ)) : Nat → σ → Reader ε σ
  | 0, _ => fail exhausted
  | n + 1, s => do
    match ← step s with
    | none => return s
    | some t => loop exhausted step n t

/-- Runs `step` until it answers nothing. A step that answers something takes at least one
character, so the number of characters left bounds the repetition. -/
def repeatStep {σ : Type} (exhausted : ε) (step : σ → Reader ε (Option σ)) (s : σ) : Reader ε σ :=
  fun cs => loop exhausted step (cs.length + 1) s cs

/-- Collects what `step` answers until it answers nothing; `step` is told whether it is the first.
-/
def collect (exhausted : ε) (step : Bool → Reader ε (Option α)) : Reader ε (List α) := do
  let read (acc : List α) : Reader ε (Option (List α)) := do
    return (← step acc.isEmpty).map (· :: acc)
  return (← repeatStep exhausted read []).reverse

/-! ## How readers run -/

@[simp]
theorem peek_apply (cs : List Char) : (peek : Reader ε _) cs = .ok (cs.head?, cs) := rfl

@[simp]
theorem next_cons (c : Char) (cs : List Char) : (next : Reader ε _) (c :: cs) = .ok (some c, cs) :=
  rfl

@[simp]
theorem bind_ok {β : Type} {r : Reader ε α} {f : α → Reader ε β} {cs rest : List Char} {a : α}
    (h : r cs = .ok (a, rest)) : (r >>= f) cs = f a rest := by
  simp [bind, StateT.bind, h, Except.bind]

theorem bind_error {β : Type} {r : Reader ε α} {f : α → Reader ε β} {cs : List Char} {e : ε}
    (h : r cs = .error e) : (r >>= f) cs = .error e := by
  simp [bind, StateT.bind, h, Except.bind]

end Reader

end AppVersions
