-- The laws of reading a stream by lines: what is delivered depends on the bytes that arrive and on
-- the failure that ends them, not on how the buffer is filled.
import AppVersions.Lines
import Mathlib.Data.List.Forall2
import Mathlib.Data.List.TakeWhile

namespace AppVersions

/-! ## What arrives -/

namespace Fetch

/-- The bytes of a fetch. -/
def content : Fetch → List UInt8
  | .bytes bs => bs
  | .failed _ => []

/-- The failure that ends the reading: an interruption does not. -/
def failure? : Fetch → Option IoError
  | .bytes _ => none
  | .failed e => if e.isInterruption then none else some e

end Fetch

/-- All bytes before the failure that ends the reading. -/
def arrived (fs : List Fetch) : List UInt8 :=
  (fs.takeWhile (·.failure?.isNone)).flatMap Fetch.content

/-- The failure that ends the reading. -/
def broken? (fs : List Fetch) : Option IoError := fs.findSome? Fetch.failure?

theorem arrived_of_going_on {f : Fetch} (hf : f.failure? = none) (fs : List Fetch) :
    arrived (f :: fs) = f.content ++ arrived fs ∧ broken? (f :: fs) = broken? fs := by
  unfold arrived broken?
  constructor
  · rw [List.takeWhile_cons_of_pos (by rw [hf]; rfl), List.flatMap_cons]
  · rw [List.findSome?_cons, hf]

theorem arrived_of_failure {f : Fetch} {e : IoError} (hf : f.failure? = some e) (fs : List Fetch) :
    arrived (f :: fs) = [] ∧ broken? (f :: fs) = some e := by
  unfold arrived broken?
  constructor
  · rw [List.takeWhile_cons_of_neg (by simp [hf]), List.flatMap_nil]
  · rw [List.findSome?_cons, hf]

/-- What one fetch does to the bytes that are still to arrive, by its answer. -/
inductive Fetched : List Fetch → Option (Except IoError (List UInt8) × List Fetch) → Prop
  | nothing {fs : List Fetch} (ha : arrived fs = []) (hb : broken? fs = none) : Fetched fs none
  | bytes {fs coming : List Fetch} {bs : List UInt8} (ha : arrived fs = bs ++ arrived coming)
      (hb : broken? fs = broken? coming) : Fetched fs (some (.ok bs, coming))
  | interrupted {fs coming : List Fetch} {e : IoError} (he : e.isInterruption = true)
      (ha : arrived fs = arrived coming) (hb : broken? fs = broken? coming) :
      Fetched fs (some (.error e, coming))
  | failed {fs coming : List Fetch} {e : IoError} (he : e.isInterruption = false)
      (ha : arrived fs = []) (hb : broken? fs = some e) : Fetched fs (some (.error e, coming))

theorem next_fetched (fs : List Fetch) : Fetched fs (Fetch.next fs) := by
  induction fs with
  | nil => exact .nothing rfl rfl
  | cons f fs ih =>
    rcases f with (_ | ⟨b, bs⟩) | e
    · obtain ⟨ha, hb⟩ := arrived_of_going_on (f := .bytes []) rfl fs
      show Fetched _ (Fetch.next fs)
      generalize Fetch.next fs = answer at ih ⊢
      cases ih with
      | nothing ha' hb' => exact .nothing (ha.trans ha') (hb.trans hb')
      | bytes ha' hb' => exact .bytes (ha.trans ha') (hb.trans hb')
      | interrupted he ha' hb' => exact .interrupted he (ha.trans ha') (hb.trans hb')
      | failed he ha' hb' => exact .failed he (ha.trans ha') (hb.trans hb')
    · obtain ⟨ha, hb⟩ := arrived_of_going_on (f := .bytes (b :: bs)) rfl fs
      obtain ⟨ha', hb'⟩ := arrived_of_going_on (f := .bytes ((b :: bs).drop Fetch.room)) rfl fs
      refine .bytes ?_ (hb.trans hb'.symm)
      rw [ha, ha', ← List.append_assoc]
      show _ = List.take Fetch.room (b :: bs) ++ List.drop Fetch.room (b :: bs) ++ _
      rw [List.take_append_drop]
      rfl
    · cases he : e.isInterruption with
      | true =>
        obtain ⟨ha, hb⟩ := arrived_of_going_on (f := .failed e) (if_pos he) fs
        exact .interrupted he ha hb
      | false =>
        have hf : (Fetch.failed e).failure? = some e := if_neg (by simp [he])
        obtain ⟨ha, hb⟩ := arrived_of_failure hf fs
        exact .failed he ha hb

/-! ## One line -/

namespace Source

/-- All bytes that can still be taken. -/
def held (s : Source) : List UInt8 := s.buffer ++ arrived s.coming

/-- What reading one line gives, by what can still be taken. -/
inductive LineRead (taken : List UInt8) (s : Source) : Except IoError (List UInt8 × Source) → Prop
  | line {front line : List UInt8} {rest : Source} (hf : 0x0A ∉ front)
      (hh : s.held = front ++ 0x0A :: rest.held) (hb : broken? rest.coming = broken? s.coming)
      (hl : line = 0x0A :: (front.reverse ++ taken)) : LineRead taken s (.ok (line, rest))
  | ended {line : List UInt8} {rest : Source} (hs : 0x0A ∉ s.held) (hb : broken? s.coming = none)
      (hr : rest.held = []) (hb' : broken? rest.coming = none)
      (hl : line = s.held.reverse ++ taken) : LineRead taken s (.ok (line, rest))
  | broken {e : IoError} (hs : 0x0A ∉ s.held) (hb : broken? s.coming = some e) :
      LineRead taken s (.error e)

/-- Bytes without a line feed may as well be taken before. -/
theorem lineRead_of_taken {front taken : List UInt8} {s s' : Source}
    {r : Except IoError (List UInt8 × Source)} (hf : 0x0A ∉ front)
    (hh : s.held = front ++ s'.held) (hb : broken? s.coming = broken? s'.coming)
    (h : LineRead (front.reverse ++ taken) s' r) : LineRead taken s r := by
  have hn : ∀ bs, 0x0A ∉ bs → 0x0A ∉ front ++ bs := by
    intro bs hbs hm
    rcases List.mem_append.mp hm with h | h
    · exact hf h
    · exact hbs h
  cases h with
  | @line front' _ _ hf' hh' hb' hl =>
    refine .line (hn front' hf') ?_ (hb'.trans hb.symm) ?_
    · rw [hh, hh', List.append_assoc]
    · rw [hl, List.reverse_append, List.append_assoc]
  | ended hs hb' hr hb'' hl =>
    refine .ended ?_ (hb.trans hb') hr hb'' ?_
    · rw [hh]
      exact hn _ hs
    · rw [hl, hh, List.reverse_append, List.append_assoc]
  | broken hs hb' =>
    refine .broken ?_ (hb.trans hb')
    rw [hh]
    exact hn _ hs

/-- What was fetched in vain does not count. -/
theorem lineRead_of_same {taken : List UInt8} {s s' : Source}
    {r : Except IoError (List UInt8 × Source)} (hh : s.held = s'.held)
    (hb : broken? s.coming = broken? s'.coming) (h : LineRead taken s' r) : LineRead taken s r := by
  have hn : (0x0A : UInt8) ∉ [] := List.not_mem_nil
  exact lineRead_of_taken hn hh hb h

theorem held_of_empty {s : Source} (hb : s.buffer = []) : s.held = arrived s.coming := by
  rw [held, hb, List.nil_append]

theorem not_mem_takeWhile_ne (c : UInt8) (bs : List UInt8) : c ∉ bs.takeWhile (· != c) := by
  intro hm
  have := List.mem_takeWhile_imp hm
  simp at this

theorem eq_of_dropWhile_ne {c d : UInt8} {bs back : List UInt8}
    (h : bs.dropWhile (· != c) = d :: back) : d = c := by
  have := List.head?_dropWhile_not (· != c) bs
  rw [h] at this
  simpa using this

theorem readLine_lineRead (taken : List UInt8) (s : Source) :
    LineRead taken s (readLine taken s) := by
  fun_induction readLine taken s with
  | case1 taken s hb hn =>
    have hf := next_fetched s.coming
    rw [hn] at hf
    cases hf with
    | nothing ha hb' =>
      have hh : s.held = [] := (held_of_empty hb).trans ha
      exact .ended (by simp [hh]) hb' hh hb' (by rw [hh]; rfl)
  | case2 taken s hb e coming hn hi ih =>
    have hf := next_fetched s.coming
    rw [hn] at hf
    cases hf with
    | interrupted _ ha hb' =>
      have hh : s.held = held ⟨[], coming⟩ := (held_of_empty hb).trans ha
      exact lineRead_of_same hh hb' ih
    | failed he _ _ =>
      rw [hi] at he
      cases he
  | case3 taken s hb e coming hn hi =>
    have hf := next_fetched s.coming
    rw [hn] at hf
    cases hf with
    | interrupted he _ _ => exact absurd he hi
    | failed _ ha hb' =>
      refine .broken ?_ hb'
      rw [held_of_empty hb, ha]
      exact List.not_mem_nil
  | case4 taken s hb bs coming hn ih =>
    have hf := next_fetched s.coming
    rw [hn] at hf
    cases hf with
    | bytes ha hb' =>
      have hh : s.held = held ⟨bs, coming⟩ := (held_of_empty hb).trans ha
      exact lineRead_of_same hh hb' ih
  | case5 taken s b bs hb front lineFeed back hd =>
    have hf : 0x0A ∉ front := not_mem_takeWhile_ne 0x0A (b :: bs)
    have hl := List.takeWhile_append_dropWhile (p := (· != 0x0A)) (l := b :: bs)
    have hlf : lineFeed = 0x0A := eq_of_dropWhile_ne hd
    rw [hd, hlf] at hl
    have hh : s.held = front ++ 0x0A :: held ⟨back, s.coming⟩ := by
      rw [held, hb, ← hl]
      exact List.append_assoc _ _ _
    exact .line hf hh rfl (by rw [hlf, List.reverseAux_eq])
  | case6 taken s b bs hb front hd ih =>
    have hf : 0x0A ∉ front := not_mem_takeWhile_ne 0x0A (b :: bs)
    have hl := List.takeWhile_append_dropWhile (p := (· != 0x0A)) (l := b :: bs)
    rw [hd, List.append_nil] at hl
    have hh : s.held = front ++ held ⟨[], s.coming⟩ := by
      rw [held, hb, ← hl]
      rfl
    rw [List.reverseAux_eq] at ih ⊢
    exact lineRead_of_taken hf hh rfl ih

end Source

/-! ## Pieces -/

/-- The bytes up to and with each line feed, and the bytes after the last one. -/
def cutLines (bs : List UInt8) : List (List UInt8) × List UInt8 :=
  let parts := bs.splitOn 0x0A
  (parts.dropLast.map (· ++ [0x0A]), parts.getLastD [])

/-- The pieces that are delivered of some bytes: those that end with a line feed, and the bytes
after the last one, if there are any and no failure ended the reading. -/
def pieces (bs : List UInt8) (failure : Option IoError) : List (List UInt8) :=
  if (cutLines bs).2 ≠ [] ∧ failure = none then (cutLines bs).1 ++ [(cutLines bs).2]
  else (cutLines bs).1

theorem cutLines_of_no_line_feed {bs : List UInt8} (h : 0x0A ∉ bs) : cutLines bs = ([], bs) := by
  unfold cutLines
  rw [List.splitOn_eq_singleton h]
  rfl

theorem cutLines_of_line_feed {front : List UInt8} (h : 0x0A ∉ front) (back : List UInt8) :
    cutLines (front ++ 0x0A :: back) =
      ((front ++ [0x0A]) :: (cutLines back).1, (cutLines back).2) := by
  have hn := List.splitOn_ne_nil (0x0A : UInt8) back
  unfold cutLines
  rw [List.splitOn_append_cons_self_of_not_mem h]
  generalize back.splitOn 0x0A = parts at hn ⊢
  cases parts with
  | nil => exact absurd rfl hn
  | cons part parts => rfl

theorem pieces_of_line_feed {front : List UInt8} (h : 0x0A ∉ front) (back : List UInt8)
    (failure : Option IoError) :
    pieces (front ++ 0x0A :: back) failure = (front ++ [0x0A]) :: pieces back failure := by
  unfold pieces
  rw [cutLines_of_line_feed h]
  split <;> rfl

theorem pieces_of_failure {bs : List UInt8} (h : 0x0A ∉ bs) (e : IoError) :
    pieces bs (some e) = [] := by
  unfold pieces
  rw [if_neg (fun h => nomatch h.2), cutLines_of_no_line_feed h]

theorem pieces_of_end {bs : List UInt8} (h : 0x0A ∉ bs) :
    pieces bs none = if bs = [] then [] else [bs] := by
  unfold pieces
  rw [cutLines_of_no_line_feed h]
  by_cases hb : bs = []
  · rw [if_pos hb, if_neg (fun h => h.1 hb)]
  · rw [if_neg hb, if_pos ⟨hb, rfl⟩]
    rfl

/-! ## All lines -/

/-- How the reading ends. -/
def outcome : Option IoError → Except IoError Unit
  | none => .ok ()
  | some e => .error e

theorem pumpFrom_eq (finished : List String) (s : Source) :
    pumpFrom finished s =
      ⟨finished.reverse ++ (pieces s.held (broken? s.coming)).map lineText,
        outcome (broken? s.coming)⟩ := by
  fun_induction pumpFrom finished s with
  | case1 finished s e hr =>
    have hl := s.readLine_lineRead []
    rw [hr] at hl
    cases hl with
    | broken hs hb =>
      rw [hb, pieces_of_failure hs, List.map_nil, List.append_nil]
      rfl
  | case2 finished s rest hr =>
    have hl := s.readLine_lineRead []
    rw [hr] at hl
    cases hl with
    | line _ _ _ hl => cases hl
    | ended hs hb _ _ hl =>
      have hh : s.held = [] := by simpa using hl.symm
      rw [hb, pieces_of_end hs, if_pos hh, List.map_nil, List.append_nil]
      rfl
  | case3 finished s b line rest hr ih =>
    have hl := s.readLine_lineRead []
    rw [hr] at hl
    rw [ih]
    cases hl with
    | @line front _ _ hf hh hb hl =>
      have hp : (b :: line).reverse = front ++ [0x0A] := by
        rw [hl]
        simp
      rw [hh, pieces_of_line_feed hf, hb, hp, List.reverse_cons, List.append_assoc]
      rfl
    | ended hs hb hh hb' hl =>
      have hp : (b :: line).reverse = s.held := by
        rw [hl]
        simp
      have hn : s.held ≠ [] := by
        rw [← hp]
        simp
      have he : pieces [] none = [] := rfl
      rw [hb, hb', hh, he, pieces_of_end hs, if_neg hn, hp, List.reverse_cons]
      simp

/-! ## Streams -/

/-- The pieces of a stream that are delivered. -/
def delivered (fs : List Fetch) : List (List UInt8) := pieces (arrived fs) (broken? fs)

theorem pump_eq (fs : List Fetch) :
    pump fs = ⟨(delivered fs).map lineText, outcome (broken? fs)⟩ :=
  pumpFrom_eq [] { coming := fs }

/-- The line of a piece: what is decoded is the line and then line breaks, as many as there are. -/
structure LineOf (piece : List UInt8) (line : String) : Prop where
  stripped : ∃ breaks : List Char, Text.Utf8.decode piece = line.toList ++ breaks ∧
    ∀ c ∈ breaks, c = '\n' ∨ c = '\r'
  all_stripped : ∀ c ∈ line.toList.getLast?, c ≠ '\n' ∧ c ≠ '\r'

theorem isLineBreak_iff (c : Char) : isLineBreak c = true ↔ c = '\n' ∨ c = '\r' := by
  simp [isLineBreak]

theorem lineOf_lineText (piece : List UInt8) : LineOf piece (lineText piece) := by
  have hr := List.takeWhile_append_dropWhile (p := isLineBreak)
    (l := (Text.Utf8.decode piece).reverse)
  have ht : (lineText piece).toList =
      ((Text.Utf8.decode piece).reverse.dropWhile isLineBreak).reverse := String.toList_ofList
  constructor
  · refine ⟨((Text.Utf8.decode piece).reverse.takeWhile isLineBreak).reverse, ?_, ?_⟩
    · rw [ht, ← List.reverse_append, hr, List.reverse_reverse]
    · intro c hc
      rw [List.mem_reverse] at hc
      exact (isLineBreak_iff c).mp (List.mem_takeWhile_imp hc)
  · intro c hc
    have hn := List.head?_dropWhile_not isLineBreak (Text.Utf8.decode piece).reverse
    rw [ht, List.getLast?_reverse, Option.mem_def] at hc
    simp only [hc] at hn
    rw [← not_or, ← isLineBreak_iff, hn]
    decide

/-- The lines are those of all that arrived before a failure, whatever the buffer held when, and
neither where the bytes were divided nor where a fetch was interrupted matters. -/
theorem lines_are_cut_from_all_that_arrived (fs : List Fetch) :
    List.Forall₂ LineOf (delivered fs) (pump fs).lines ∧
      (pump fs).result = outcome (broken? fs) ∧
      ∀ gs, arrived gs = arrived fs → broken? gs = broken? fs → pump gs = pump fs := by
  rw [pump_eq]
  refine ⟨?_, rfl, ?_⟩
  · rw [List.forall₂_map_right_iff, List.forall₂_same]
    intro piece _
    exact lineOf_lineText piece
  · intro gs ha hb
    rw [pump_eq, delivered, ha, hb]
    rfl

/-- The bytes may be divided inside a character and between the two ends of a line, and the reading
may be interrupted there. -/
theorem lines_of_a_divided_stream :
    let whole : List Fetch := [.bytes [0x61, 0xC3, 0xA9, 0x0D, 0x0A, 0x62]]
    let divided : List Fetch :=
      [.bytes [0x61, 0xC3], .failed (.os 4), .bytes [0xA9, 0x0D], .bytes [0x0A, 0x62]]
    arrived divided = arrived whole ∧ broken? divided = broken? whole ∧
      delivered whole = [[0x61, 0xC3, 0xA9, 0x0D, 0x0A], [0x62]] ∧ pump divided = pump whole := by
  intro whole divided
  have ha : arrived divided = arrived whole := by decide
  have hb : broken? divided = broken? whole := by decide
  exact ⟨ha, hb, by decide, (lines_are_cut_from_all_that_arrived whole).2.2 divided ha hb⟩

end AppVersions
