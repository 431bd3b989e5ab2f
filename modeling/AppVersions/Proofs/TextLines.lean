-- The laws of the lines of a text: cutting a stream into lines before it is decoded gives what
-- cutting the decoded text gives.
import AppVersions.Proofs.Lines
import AppVersions.Proofs.Utf8

namespace AppVersions

open Text (dropEndWhile)
open Text.Utf8 (decode decode_append_lineFeed decode_eq_nil_iff lineFeed_not_mem_decode)

/-! ## Cuts -/

/-- A list is cut at the first of its separators, and the rest of it is cut on. -/
theorem cut_induction {α : Type} [DecidableEq α] (c : α) {motive : List α → Prop}
    (last : ∀ xs, c ∉ xs → motive xs)
    (cut : ∀ front back, c ∉ front → motive back → motive (front ++ c :: back)) (xs : List α) :
    motive xs := by
  by_cases hc : c ∈ xs
  · obtain ⟨front, back, he, hf⟩ := List.eq_append_cons_of_mem hc
    rw [he]
    exact cut front back hf (cut_induction c last cut back)
  · exact last xs hc
termination_by xs.length
decreasing_by
  simp only [he, List.length_append, List.length_cons]
  omega

/-- The parts of a text between its line feeds. After the last one there is a part only if there is
some text. -/
def textLines (cs : List Char) : List (List Char) :=
  let parts := cs.splitOn '\n'
  if parts.getLast? = some [] then parts.dropLast else parts

theorem textLines_of_end {cs : List Char} (h : '\n' ∉ cs) :
    textLines cs = if cs = [] then [] else [cs] := by
  unfold textLines
  rw [List.splitOn_eq_singleton h]
  by_cases hc : cs = []
  · rw [hc]
    rfl
  · rw [if_neg hc]
    exact if_neg (fun he => hc (Option.some.inj he))

theorem textLines_of_line_feed {front : List Char} (h : '\n' ∉ front) (back : List Char) :
    textLines (front ++ '\n' :: back) = front :: textLines back := by
  have hn := List.splitOn_ne_nil '\n' back
  unfold textLines
  rw [List.splitOn_append_cons_self_of_not_mem h]
  generalize back.splitOn '\n' = parts at hn ⊢
  cases parts with
  | nil => exact absurd rfl hn
  | cons part parts =>
    simp only [List.getLast?_cons_cons, List.dropLast_cons_cons]
    split <;> rfl

/-! ## Stripped lines -/

/-- A line without the carriage returns at its end. -/
def withoutReturns (cs : List Char) : List Char := dropEndWhile (· == '\r') cs

theorem dropEndWhile_append {α : Type} {p : α → Bool} {x : α} (hx : p x = true) (xs : List α) :
    dropEndWhile p (xs ++ [x]) = dropEndWhile p xs := by
  unfold dropEndWhile
  rw [List.reverse_append, List.reverse_singleton, List.singleton_append,
    List.dropWhile_cons_of_pos hx]

/-- Without a line feed only carriage returns are dropped. -/
theorem dropEndWhile_isLineBreak {cs : List Char} (h : '\n' ∉ cs) :
    dropEndWhile isLineBreak cs = withoutReturns cs := by
  have hreverse : '\n' ∉ cs.reverse := fun hm => h (List.mem_reverse.mp hm)
  unfold withoutReturns dropEndWhile
  congr 1
  generalize cs.reverse = cs at hreverse ⊢
  induction cs with
  | nil => rfl
  | cons c cs ih =>
    obtain ⟨hc, hcs⟩ := List.ne_and_not_mem_of_not_mem_cons hreverse
    have hp : isLineBreak c = (c == '\r') := by
      have : (c == '\n') = false := beq_false_of_ne (Ne.symm hc)
      rw [isLineBreak, this, Bool.false_or]
    rw [List.dropWhile_cons, List.dropWhile_cons, hp, ih hcs]

theorem lineText_of_line_feed {front : List UInt8} (h : 0x0A ∉ front) :
    lineText (front ++ [0x0A]) = .ofList (withoutReturns (decode front)) := by
  unfold lineText
  rw [decode_append_lineFeed]
  show String.ofList (dropEndWhile isLineBreak (decode front ++ ['\n'])) = _
  rw [dropEndWhile_append rfl, dropEndWhile_isLineBreak (lineFeed_not_mem_decode h)]

theorem lineText_of_end {bs : List UInt8} (h : 0x0A ∉ bs) :
    lineText bs = .ofList (withoutReturns (decode bs)) := by
  unfold lineText
  rw [dropEndWhile_isLineBreak (lineFeed_not_mem_decode h)]

/-! ## Cutting and decoding -/

/-- The lines of the pieces are those of the text that all bytes together spell. -/
theorem map_lineText_pieces (bs : List UInt8) :
    (pieces bs none).map lineText =
      (textLines (decode bs)).map (fun line => .ofList (withoutReturns line)) := by
  induction bs using cut_induction (0x0A : UInt8) with
  | last bs h =>
    rw [pieces_of_end h, textLines_of_end (lineFeed_not_mem_decode h)]
    by_cases hb : bs = []
    · rw [if_pos hb, if_pos (decode_eq_nil_iff.mpr hb)]
      rfl
    · rw [if_neg hb, if_neg (fun hd => hb (decode_eq_nil_iff.mp hd)), List.map_singleton,
        List.map_singleton, lineText_of_end h]
  | cut front back h ih =>
    rw [pieces_of_line_feed h, decode_append_lineFeed,
      textLines_of_line_feed (lineFeed_not_mem_decode h), List.map_cons, List.map_cons,
      lineText_of_line_feed h, ih]

/-- No byte is lost or moved by cutting, and no character is changed. -/
theorem flatten_pieces (bs : List UInt8) :
    (pieces bs none).flatten = bs ∧ (pieces bs none).flatMap decode = decode bs := by
  induction bs using cut_induction (0x0A : UInt8) with
  | last bs h =>
    rw [pieces_of_end h]
    split
    · rename_i hb
      rw [hb]
      exact ⟨rfl, rfl⟩
    · exact ⟨List.flatten_singleton, List.flatMap_singleton decode bs⟩
  | cut front back h ih =>
    obtain ⟨hflat, hdecoded⟩ := ih
    rw [pieces_of_line_feed h, decode_append_lineFeed, List.flatten_cons, List.flatMap_cons, hflat,
      hdecoded, decode_append_lineFeed, List.append_assoc, List.append_assoc]
    exact ⟨rfl, rfl⟩

/-- Of a stream that is read to its end, the lines are those of its text: all bytes are decoded at
once, the text is cut at line feeds, with nothing after the last one being no line, and carriage
returns at the end of a line are dropped. The pieces that are decoded one by one are all of the
bytes, in order, and give all of the characters, replacements included, where the whole has them. -/
theorem decoding_by_lines_is_decoding_the_whole (fs : List Fetch) (h : broken? fs = none) :
    (pump fs).result = .ok () ∧
      (pump fs).lines =
        (textLines (decode (arrived fs))).map (fun line => .ofList (withoutReturns line)) ∧
      (delivered fs).flatten = arrived fs ∧
      (delivered fs).flatMap decode = decode (arrived fs) := by
  have hpieces : delivered fs = pieces (arrived fs) none := by rw [delivered, h]
  rw [pump_eq, h, hpieces]
  exact ⟨rfl, map_lineText_pieces (arrived fs), flatten_pieces (arrived fs)⟩

/-- A character that is cut short before a line feed, one that is written with too many bytes, and
one that is cut short at the end of the stream, with a failure in between that does not count. -/
theorem malformed_characters_at_line_ends :
    let fs : List Fetch :=
      [.bytes [0x61, 0xE2, 0x82, 0x0A, 0xC0], .failed (.os 4), .bytes [0x8A, 0x0D, 0x0D, 0x0A],
        .bytes [0xF0, 0x9F]]
    broken? fs = none ∧ (pump fs).lines = ["a\uFFFD", "\uFFFD\uFFFD", "\uFFFD"] := by
  intro fs
  have h : broken? fs = none := rfl
  exact ⟨h, (decoding_by_lines_is_decoding_the_whole fs h).2.1⟩

end AppVersions
