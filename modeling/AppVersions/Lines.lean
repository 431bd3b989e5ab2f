-- Lines of a byte stream that arrives in pieces: read through a buffer, cut after every line feed,
-- decoded, and without the line breaks at the end.
import AppVersions.IoError
import AppVersions.Text.Blank
import AppVersions.Text.Utf8

namespace AppVersions

/-! ## Fetches -/

/-- What a stream answers when it is read once: the next bytes, or a failure. -/
inductive Fetch
  | bytes (bs : List UInt8)
  | failed (cause : IoError)
  deriving DecidableEq

namespace Fetch

/-- The buffer has room for so many bytes. -/
def room : Nat := 8192

/-- One fetch: as many bytes as there is room for, and all that is to come after them. No bytes are
no answer, and nothing to come is the end of the stream. -/
def next : List Fetch → Option (Except IoError (List UInt8) × List Fetch)
  | [] => none
  | .bytes [] :: coming => next coming
  | .bytes bs :: coming => some (.ok (bs.take room), .bytes (bs.drop room) :: coming)
  | .failed e :: coming => some (.error e, coming)

/-- A bound on what can be done with what is to come: bytes are fetched, and then they are taken. -/
def weight : List Fetch → Nat
  | [] => 0
  | .bytes bs :: coming => 2 * bs.length + 1 + weight coming
  | .failed _ :: coming => 1 + weight coming

theorem weight_of_next {fs coming : List Fetch} {answer : Except IoError (List UInt8)}
    (h : next fs = some (answer, coming)) :
    (answer.toOption.getD []).length + weight coming < weight fs := by
  induction fs with
  | nil => cases h
  | cons f fs ih =>
    rcases f with (_ | ⟨b, bs⟩) | e
    · have := ih h
      simp only [weight]
      omega
    · have : 0 < room := by decide
      cases h
      simp only [Except.toOption, Option.getD_some, weight, List.length_take, List.length_drop,
        List.length_cons]
      omega
    · cases h
      simp only [Except.toOption, Option.getD_none, weight, List.length_nil]
      omega

end Fetch

/-! ## Sources -/

/-- A stream behind a buffer: the bytes that were fetched and not yet taken, and what is to come. -/
structure Source where
  buffer : List UInt8 := []
  coming : List Fetch

namespace Source

/-- A bound on what can be done before the source runs dry. -/
def weight (s : Source) : Nat := s.buffer.length + Fetch.weight s.coming

theorem weight_of_next {s : Source} {coming : List Fetch} {answer : Except IoError (List UInt8)}
    (h : Fetch.next s.coming = some (answer, coming)) :
    weight ⟨answer.toOption.getD [], coming⟩ < s.weight :=
  Nat.lt_of_lt_of_le (Fetch.weight_of_next h) (Nat.le_add_left _ _)

/-- Reads up to the next line feed and takes it, too, or up to the end of the stream; `taken` are
the bytes taken before, the last one first. An interrupted fetch is tried again. -/
def readLine (taken : List UInt8) (s : Source) : Except IoError (List UInt8 × Source) :=
  match _ : s.buffer with
  | [] =>
    match _ : Fetch.next s.coming with
    | none => .ok (taken, s)
    | some (.error e, coming) =>
      if e.isInterruption then readLine taken ⟨[], coming⟩ else .error e
    | some (.ok bs, coming) => readLine taken ⟨bs, coming⟩
  | b :: bs =>
    let front := (b :: bs).takeWhile (· != 0x0A)
    match (b :: bs).dropWhile (· != 0x0A) with
    | lineFeed :: back => .ok (lineFeed :: front.reverseAux taken, ⟨back, s.coming⟩)
    | [] => readLine (front.reverseAux taken) ⟨[], s.coming⟩
termination_by s.weight
decreasing_by
  · exact weight_of_next ‹Fetch.next s.coming = _›
  · exact weight_of_next ‹Fetch.next s.coming = _›
  · simp [weight, *]

theorem length_takeWhile_add_dropWhile (p : UInt8 → Bool) (bs : List UInt8) :
    (bs.takeWhile p).length + (bs.dropWhile p).length = bs.length := by
  rw [← List.length_append, List.takeWhile_append_dropWhile]

/-- Whatever is taken is no longer held. -/
theorem weight_of_readLine {taken line : List UInt8} {s rest : Source}
    (h : readLine taken s = .ok (line, rest)) :
    line.length + rest.weight ≤ taken.length + s.weight := by
  fun_induction readLine taken s with
  | case1 taken s hb hn =>
    cases h
    omega
  | case2 taken s hb e coming hn hi ih =>
    have : weight ⟨[], coming⟩ < s.weight := weight_of_next hn
    have := ih h
    omega
  | case3 taken s hb e coming hn hi => cases h
  | case4 taken s hb bs coming hn ih =>
    have : weight ⟨bs, coming⟩ < s.weight := weight_of_next hn
    have := ih h
    omega
  | case5 taken s b bs hb front lineFeed back hd =>
    have hl := length_takeWhile_add_dropWhile (· != 0x0A) (b :: bs)
    cases h
    simp only [hd, List.length_cons] at hl
    simp only [weight, hb, front, List.reverseAux_eq, List.length_append, List.length_reverse,
      List.length_cons]
    omega
  | case6 taken s b bs hb front hd ih =>
    have hl := length_takeWhile_add_dropWhile (· != 0x0A) (b :: bs)
    have := ih h
    simp only [hd, List.length_cons, List.length_nil] at hl
    simp only [weight, hb, front, List.reverseAux_eq, List.length_append, List.length_reverse,
      List.length_cons, List.length_nil] at this ⊢
    omega

end Source

/-! ## Lines -/

def isLineBreak (c : Char) : Bool := c == '\n' || c == '\r'

/-- The text of a line: all line breaks at its end are dropped. -/
def lineText (bs : List UInt8) : String :=
  .ofList (Text.dropEndWhile isLineBreak (Text.Utf8.decode bs))

/-- The lines of a stream, and how it ended. -/
structure Pumped where
  lines : List String
  result : Except IoError Unit

/-- Reads line after line until there is none or the stream breaks off; `finished` are the lines
before, the last one first. -/
def pumpFrom (finished : List String) (s : Source) : Pumped :=
  match _ : s.readLine [] with
  | .error e => ⟨finished.reverse, .error e⟩
  | .ok ([], _) => ⟨finished.reverse, .ok ()⟩
  | .ok (b :: line, rest) => pumpFrom (lineText (b :: line).reverse :: finished) rest
termination_by s.weight
decreasing_by
  have := Source.weight_of_readLine ‹_›
  simp only [List.length_cons, List.length_nil] at this
  omega

def pump (fs : List Fetch) : Pumped := pumpFrom [] { coming := fs }

end AppVersions
