-- The laws of captured texts: what is captured of a stream has settled, so that capturing it again
-- changes nothing, and a tidy text is captured as it is.
import AppVersions.Proofs.Captures
import AppVersions.Proofs.TextLines
import Mathlib.Data.List.Chain

namespace AppVersions

open Text (dropEndWhile)
open Text.Utf8 (bytes bytes_eq decode decode_append_lineFeed decode_encode)

/-! ## Tidy texts -/

/-- No carriage return stands directly before a line feed, or at the end. -/
structure Tidy (cs : List Char) : Prop where
  inside : ¬ ['\r', '\n'] <:+: cs
  at_end : cs.getLast? ≠ some '\r'

theorem not_infix_iff_isChain (cs : List Char) :
    ¬ ['\r', '\n'] <:+: cs ↔ cs.IsChain (fun c d => c = '\r' → d ≠ '\n') := by
  rw [List.isChain_iff_forall_rel_of_append_cons_cons]
  constructor
  · rintro h _ _ front back rfl rfl rfl
    exact h ⟨front, back, by simp⟩
  · rintro h ⟨front, back, he⟩
    have he : cs = front ++ '\r' :: '\n' :: back := by simp [← he]
    exact h he rfl rfl

theorem not_infix_of_end {cs : List Char} (h : '\n' ∉ cs) : ¬ ['\r', '\n'] <:+: cs :=
  fun hi => h (hi.subset (List.mem_cons_of_mem _ List.mem_cons_self))

/-- Whether a text is tidy inside can be told line by line. -/
theorem not_infix_of_line_feed {front : List Char} (h : '\n' ∉ front) (back : List Char) :
    ¬ ['\r', '\n'] <:+: front ++ '\n' :: back ↔
      front.getLast? ≠ some '\r' ∧ ¬ ['\r', '\n'] <:+: back := by
  have hfront := (not_infix_iff_isChain front).mp (not_infix_of_end h)
  rw [not_infix_iff_isChain, not_infix_iff_isChain, List.isChain_append, List.isChain_cons]
  constructor
  · rintro ⟨-, ⟨-, hback⟩, hlast⟩
    exact ⟨fun hl => hlast _ hl '\n' rfl rfl rfl, hback⟩
  · rintro ⟨hlast, hback⟩
    refine ⟨hfront, ⟨fun _ _ he => absurd he (by decide), hback⟩, ?_⟩
    rintro c hc _ - rfl
    exact absurd hc hlast

/-! ## Settled texts -/

theorem withoutReturns_of_getLast {cs : List Char} (h : cs.getLast? ≠ some '\r') :
    withoutReturns cs = cs := by
  unfold withoutReturns dropEndWhile
  rw [List.getLast?_eq_head?_reverse] at h
  have hkept : cs.reverse.dropWhile (· == '\r') = cs.reverse := by
    cases hr : cs.reverse with
    | nil => rfl
    | cons c cs' =>
      rw [hr] at h
      exact List.dropWhile_cons_of_neg (by simpa using h)
  rw [hkept, List.reverse_reverse]

theorem getLast_withoutReturns (cs : List Char) : (withoutReturns cs).getLast? ≠ some '\r' := by
  have hn := List.head?_dropWhile_not (· == '\r') cs.reverse
  unfold withoutReturns dropEndWhile
  rw [List.getLast?_reverse]
  intro hl
  rw [hl] at hn
  cases hn

theorem not_mem_withoutReturns {cs : List Char} (h : '\n' ∉ cs) : '\n' ∉ withoutReturns cs := by
  unfold withoutReturns dropEndWhile
  intro hm
  have hm := (List.dropWhile_suffix (· == '\r')).subset (List.mem_reverse.mp hm)
  exact h (List.mem_reverse.mp hm)

/-- The lines of a text without the carriage returns at their ends, and a line feed after each. -/
def settled (cs : List Char) : List Char :=
  (textLines cs).flatMap fun line => withoutReturns line ++ ['\n']

theorem settled_nil : settled [] = [] := rfl

theorem settled_of_end {cs : List Char} (h : '\n' ∉ cs) (hc : cs ≠ []) :
    settled cs = withoutReturns cs ++ ['\n'] := by
  unfold settled
  rw [textLines_of_end h, if_neg hc, List.flatMap_singleton]

theorem settled_of_line_feed {front : List Char} (h : '\n' ∉ front) (back : List Char) :
    settled (front ++ '\n' :: back) = withoutReturns front ++ '\n' :: settled back := by
  unfold settled
  rw [textLines_of_line_feed h, List.flatMap_cons, List.append_assoc]
  rfl

theorem getLast_settled (cs : List Char) :
    settled cs = [] ∨ (settled cs).getLast? = some '\n' := by
  induction cs using cut_induction '\n' with
  | last cs h =>
    by_cases hc : cs = []
    · left
      rw [hc, settled_nil]
    · right
      rw [settled_of_end h hc, List.getLast?_concat]
  | cut front back h ih =>
    right
    rw [settled_of_line_feed h, List.getLast?_append_cons]
    rcases ih with he | hl
    · rw [he]
      rfl
    · rw [List.getLast?_cons, hl]
      rfl

theorem tidy_settled (cs : List Char) : Tidy (settled cs) := by
  constructor
  · induction cs using cut_induction '\n' with
    | last cs h =>
      by_cases hc : cs = []
      · rw [hc, settled_nil]
        exact not_infix_of_end List.not_mem_nil
      · rw [settled_of_end h hc, not_infix_of_line_feed (not_mem_withoutReturns h)]
        exact ⟨getLast_withoutReturns cs, not_infix_of_end List.not_mem_nil⟩
    | cut front back h ih =>
      rw [settled_of_line_feed h, not_infix_of_line_feed (not_mem_withoutReturns h)]
      exact ⟨getLast_withoutReturns front, ih⟩
  · rcases getLast_settled cs with he | hl
    · rw [he]
      nofun
    · rw [hl]
      decide

/-- A tidy text has settled, but for a line feed at its end. -/
theorem settled_of_tidy {cs : List Char} (h : Tidy cs) :
    settled cs = if cs = [] ∨ cs.getLast? = some '\n' then cs else cs ++ ['\n'] := by
  obtain ⟨hinside, hend⟩ := h
  induction cs using cut_induction '\n' with
  | last cs hn =>
    by_cases hc : cs = []
    · rw [if_pos (.inl hc), hc, settled_nil]
    · have hlast : cs.getLast? ≠ some '\n' := fun hl => hn (List.mem_of_getLast? hl)
      rw [if_neg (not_or.mpr ⟨hc, hlast⟩), settled_of_end hn hc, withoutReturns_of_getLast hend]
  | cut front back hn ih =>
    obtain ⟨hfront, hback⟩ := (not_infix_of_line_feed hn back).mp hinside
    rw [List.getLast?_append_cons] at hend ⊢
    rw [settled_of_line_feed hn, withoutReturns_of_getLast hfront]
    rcases hb : back with _ | ⟨c, cs⟩
    · rw [settled_nil, if_pos (.inr rfl)]
    · rw [hb, List.getLast?_cons_cons] at hend
      rw [← hb, ih hback (hb ▸ hend), hb, List.getLast?_cons_cons]
      have hne : c :: cs ≠ [] := List.cons_ne_nil c cs
      have hne' : front ++ '\n' :: c :: cs ≠ [] := by simp
      simp only [hne, hne', false_or]
      split
      · rfl
      · rw [List.append_assoc]
        rfl

theorem settled_settled (cs : List Char) : settled (settled cs) = settled cs := by
  rw [settled_of_tidy (tidy_settled cs), if_pos (getLast_settled cs)]

/-- What stands before a line feed and what stands after it settle apart. -/
theorem settled_append (front back : List Char) :
    settled (front ++ '\n' :: back) = settled (front ++ ['\n']) ++ settled back := by
  induction front using cut_induction '\n' with
  | last front h =>
    rw [settled_of_line_feed h, settled_of_line_feed h, settled_nil, List.append_assoc]
    rfl
  | cut line front h ih =>
    rw [List.append_assoc, List.append_assoc, List.cons_append, List.cons_append,
      settled_of_line_feed h, settled_of_line_feed h, ih, List.append_assoc]
    rfl

/-! ## What is captured -/

theorem linedText_eq (bs : List UInt8) : linedText bs = .ofList (settled (decode bs)) := by
  apply String.toList_inj.mp
  unfold linedText textOf settled
  rw [map_lineText_pieces, String.toList_join, List.map_map, List.flatMap_map, String.toList_ofList]
  simp

namespace Buffers

/-- The text of one stream. -/
def text (b : Buffers) : OutputStream → String
  | .stdout => b.stdout
  | .stderr => b.stderr

/-- The lines of a stream are added to its text. -/
theorem text_receive (b : Buffers) (stream : OutputStream) (fs : List Fetch) :
    (b.receive stream fs).text stream = b.text stream ++ textOf (pump fs).lines := by
  have hpush : b.receive stream fs = ((pump fs).lines.map (stream, ·)).foldl push b := by
    rw [List.foldl_map]
    rfl
  rw [hpush, foldl_push]
  cases stream with
  | stdout => exact congrArg (b.stdout ++ textOf ·) (linesOf_same _ _)
  | stderr => exact congrArg (b.stderr ++ textOf ·) (linesOf_same _ _)

end Buffers

/-- What is captured of a stream alone. -/
def capturedText (stream : OutputStream) (fs : List Fetch) : String :=
  (Buffers.receive {} stream fs).text stream

theorem capturedText_eq (stream : OutputStream) {fs : List Fetch} (h : broken? fs = none) :
    capturedText stream fs = .ofList (settled (decode (arrived fs))) := by
  have hempty : ({} : Buffers).text stream = "" := by cases stream <;> rfl
  unfold capturedText
  rw [Buffers.text_receive, hempty, String.empty_append, textOf_pump h, linedText_eq]

theorem capturedText_of_text (stream : OutputStream) {fs : List Fetch} (h : broken? fs = none)
    {s : String} (hs : arrived fs = s.toUTF8.data.toList) :
    capturedText stream fs = .ofList (settled s.toList) := by
  rw [capturedText_eq stream h, hs, ← bytes_eq, bytes, decode_encode]

theorem capturedText_append (stream : OutputStream) {fs gs hs : List Fetch}
    (hf : broken? fs = none) (hg : broken? gs = none) (hh : broken? hs = none)
    (hl : (arrived fs).getLast? = some 0x0A) (ha : arrived hs = arrived fs ++ arrived gs) :
    capturedText stream hs = capturedText stream fs ++ capturedText stream gs := by
  obtain ⟨front, hfront⟩ := List.getLast?_eq_some_iff.mp hl
  have hwhole : arrived hs = front ++ 0x0A :: arrived gs := by
    rw [ha, hfront, List.append_assoc]
    rfl
  rw [capturedText_eq stream hh, capturedText_eq stream hf, capturedText_eq stream hg, hwhole,
    hfront, decode_append_lineFeed, decode_append_lineFeed, settled_append, String.ofList_append]
  rfl

/-- What is captured of a stream that is read to its end is empty or ends with a line feed, has no
carriage return directly before one, and is captured unchanged when its own bytes arrive, however
they are divided. A tidy text is captured as it is, with a line feed at its end if there is any text
and none is there. Where the bytes are cut after a line feed, what is captured is what is captured
of both parts, one after the other. -/
theorem a_captured_text_is_captured_unchanged (stream : OutputStream) (fs : List Fetch)
    (h : broken? fs = none) :
    let text := capturedText stream fs
    (text = "" ∨ text.toList.getLast? = some '\n') ∧
      ¬ ['\r', '\n'] <:+: text.toList ∧
      (∀ gs, broken? gs = none → arrived gs = text.toUTF8.data.toList →
        capturedText stream gs = text) ∧
      (∀ s : String, arrived fs = s.toUTF8.data.toList → Tidy s.toList →
        text = if s = "" ∨ s.toList.getLast? = some '\n' then s else s ++ "\n") ∧
      ∀ gs hs, broken? gs = none → broken? hs = none → (arrived fs).getLast? = some 0x0A →
        arrived hs = arrived fs ++ arrived gs →
        capturedText stream hs = text ++ capturedText stream gs := by
  intro text
  have htext : text.toList = settled (decode (arrived fs)) :=
    (congrArg String.toList (capturedText_eq stream h)).trans String.toList_ofList
  refine ⟨?_, ?_, ?_, ?_, ?_⟩
  · rw [← String.toList_eq_nil_iff, htext]
    exact getLast_settled _
  · rw [htext]
    exact (tidy_settled _).inside
  · intro gs hg ha
    rw [capturedText_of_text stream hg ha, htext, settled_settled, ← htext, String.ofList_toList]
  · intro s ha ht
    have hcaptured : text = .ofList (settled s.toList) := capturedText_of_text stream h ha
    rw [hcaptured, settled_of_tidy ht]
    simp only [String.toList_eq_nil_iff]
    split
    · exact String.ofList_toList
    · rw [String.ofList_append, String.ofList_toList]
  · intro gs hs hg hh hl ha
    exact capturedText_append stream h hg hh hl ha

/-- The first line ends with two carriage returns, and the second is cut short inside a character.
What is captured of them has settled. The bytes of a tidy text need a line feed only, and a stream
may be divided after the line feed of the first line. -/
theorem a_settled_text_of_an_untidy_stream :
    let untidy : List Fetch := [.bytes [0x61, 0x0D, 0x0D, 0x0A, 0xE2, 0x82, 0x0D]]
    let again : List Fetch :=
      [.bytes [0x61, 0x0A, 0xEF], .failed (.os 4), .bytes [0xBF, 0xBD, 0x0A]]
    let tidy : List Fetch := [.bytes [0xC3, 0xA9]]
    let front : List Fetch := [.bytes [0x61, 0x0D, 0x0D, 0x0A]]
    let back : List Fetch := [.bytes [0xE2, 0x82, 0x0D]]
    capturedText .stderr untidy = "a\n\uFFFD\n" ∧ capturedText .stderr again = "a\n\uFFFD\n" ∧
      capturedText .stdout tidy = "é\n" ∧
      capturedText .stderr untidy = capturedText .stderr front ++ capturedText .stderr back := by
  intro untidy again tidy front back
  have hcaptured : capturedText .stderr untidy = "a\n\uFFFD\n" := by
    rw [capturedText_eq .stderr rfl]
    decide
  obtain ⟨-, -, hagain, -, -⟩ := a_captured_text_is_captured_unchanged .stderr untidy rfl
  obtain ⟨-, -, -, htidy, -⟩ := a_captured_text_is_captured_unchanged .stdout tidy rfl
  obtain ⟨-, -, -, -, hparts⟩ := a_captured_text_is_captured_unchanged .stderr front rfl
  refine ⟨hcaptured, ?_, ?_, hparts back untidy rfl rfl rfl rfl⟩
  · rw [← hcaptured]
    refine hagain again rfl ?_
    rw [hcaptured]
    decide
  · refine htidy "é" (by decide) ⟨?_, by decide⟩
    decide

end AppVersions
