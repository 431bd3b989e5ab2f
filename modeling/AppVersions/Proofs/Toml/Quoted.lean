-- All ways to write a string of TOML between double quotes: a character stands there as it is, by a
-- short escape, or by its number. A string is read as what it spells, and every string can be
-- spelled.
import AppVersions.Proofs.Json.Quoted
import AppVersions.Toml.Text

namespace AppVersions.Toml

open AppVersions.Reader (Collects StopsAt bind_error bind_ok)
open AppVersions.Text (hexNumber? hexValue? numberedChar?)

/-! ## Characters -/

/-- The characters that a backslash and one more character stand for. -/
def shortEscapes : List (Char × Char) :=
  [('"', '"'), ('\\', '\\'), ('b', '\x08'), ('t', '\t'), ('n', '\n'), ('f', '\x0c'), ('r', '\r')]

/-- The characters that a number may follow, and how many digits it then has. -/
def numberedEscapes : List (Char × Nat) := [('u', 4), ('U', 8)]

/-- Hexadecimal digits in either case, and the number that they write. -/
inductive HexSpelled : Nat → List Char → Prop
  | nil : HexSpelled 0 []
  | snoc {n d : Nat} {ds : List Char} {c : Char} (h : HexSpelled n ds)
      (hc : hexValue? c = some d) : HexSpelled (n * 16 + d) (ds ++ [c])

/-- The ways to write one character inside a string. -/
inductive CharSpelled : Char → List Char → Prop
  | plain {c : Char} (hq : c ≠ '"') (hb : c ≠ '\\') (hc : isVisible c = true) : CharSpelled c [c]
  | short {c mark : Char} (h : (mark, c) ∈ shortEscapes) : CharSpelled c ['\\', mark]
  | numbered {n : Nat} {mark : Char} {ds : List Char} (h : HexSpelled n ds)
      (hm : (mark, ds.length) ∈ numberedEscapes) (hn : n.isValidChar) :
      CharSpelled (Char.ofNat n) ('\\' :: mark :: ds)

theorem hexNumber_of_spelled {n : Nat} {ds : List Char} (h : HexSpelled n ds) :
    hexNumber? ds = some n := by
  induction h with
  | nil => rfl
  | snoc _ hc ih =>
    unfold hexNumber? at ih ⊢
    rw [List.foldlM_append, ih]
    show (do (do (hexValue? _).map _) >>= pure : Option Nat) = _
    rw [hc]
    rfl

theorem numbered_of_spelled {n : Nat} {ds : List Char} (h : HexSpelled n ds) (hn : n.isValidChar)
    (rest : List Char) : numbered ds.length (ds ++ rest) = .ok (Char.ofNat n, rest) := by
  have hlength : ds.length ≤ (ds ++ rest).length := by
    rw [List.length_append]
    exact Nat.le_add_right _ _
  have hchar : numberedChar? ds.length (ds ++ rest) = some (Char.ofNat n, rest) := by
    unfold numberedChar?
    rw [List.take_left, hexNumber_of_spelled h, List.drop_left]
    exact if_pos ⟨hlength, hn⟩
  unfold numbered
  rw [hchar]

theorem escaped_of_short {c mark : Char} (h : (mark, c) ∈ shortEscapes) (rest : List Char) :
    escaped (mark :: rest) = .ok (c, rest) := by
  simp only [shortEscapes, List.mem_cons, Prod.mk.injEq, List.not_mem_nil, or_false] at h
  rcases h with ⟨rfl, rfl⟩ | ⟨rfl, rfl⟩ | ⟨rfl, rfl⟩ | ⟨rfl, rfl⟩ | ⟨rfl, rfl⟩ | ⟨rfl, rfl⟩ |
    ⟨rfl, rfl⟩ <;> rfl

theorem escaped_of_number {n : Nat} {mark : Char} {ds : List Char} (h : HexSpelled n ds)
    (hm : (mark, ds.length) ∈ numberedEscapes) (hn : n.isValidChar) (rest : List Char) :
    escaped (mark :: (ds ++ rest)) = .ok (Char.ofNat n, rest) := by
  have hnumbered := numbered_of_spelled h hn rest
  simp only [numberedEscapes, List.mem_cons, Prod.mk.injEq, List.not_mem_nil, or_false] at hm
  rcases hm with ⟨rfl, hl⟩ | ⟨rfl, hl⟩
  · rw [hl] at hnumbered
    exact hnumbered
  · rw [hl] at hnumbered
    exact hnumbered

theorem basicChar_of_escaped {c : Char} {cs rest : List Char} (h : escaped cs = .ok (c, rest)) :
    basicChar ('\\' :: cs) = .ok (some c, rest) := by
  show (do return some (← escaped) : Read (Option Char)) cs = _
  rw [bind_ok h]
  rfl

theorem basicChar_of_spelled {c : Char} {cs : List Char} (h : CharSpelled c cs)
    (rest : List Char) : basicChar (cs ++ rest) = .ok (some c, rest) := by
  cases h with
  | plain hq hb hc =>
    unfold basicChar
    rw [List.singleton_append, bind_ok (Reader.next_cons _ _)]
    dsimp only
    rw [if_neg hq, if_neg hb, if_pos hc]
    rfl
  | short h => exact basicChar_of_escaped (escaped_of_short h rest)
  | numbered h hm hn => exact basicChar_of_escaped (escaped_of_number h hm hn rest)

/-- No character is written by nothing or starts with the closing quote. -/
theorem exists_of_charSpelled {c : Char} {cs : List Char} (h : CharSpelled c cs) :
    ∃ d more, cs = d :: more ∧ d ≠ '"' := by
  cases h with
  | plain hq _ _ => exact ⟨_, _, rfl, hq⟩
  | short _ | numbered _ _ _ => exact ⟨_, _, rfl, by decide⟩

/-! ## Strings -/

/-- The rest of a string after its opening quote. -/
inductive CharsSpelled : List Char → List Char → Prop
  | close : CharsSpelled [] ['"']
  | cons {c : Char} {cs piece text : List Char} (h : CharSpelled c piece)
      (hr : CharsSpelled cs text) : CharsSpelled (c :: cs) (piece ++ text)

inductive StringSpelled : String → List Char → Prop
  | quoted {s : String} {text : List Char} (h : CharsSpelled s.toList text) :
      StringSpelled s ('"' :: text)

theorem collects_of_charsSpelled {cs text : List Char} (h : CharsSpelled cs text) (first : Bool)
    (rest : List Char) : Collects (fun _ => basicChar) first (text ++ rest) cs rest := by
  induction h generalizing first with
  | close => exact .done rfl
  | cons h _ ih =>
    rw [List.append_assoc]
    refine .more (basicChar_of_spelled h _) ?_ (ih false)
    obtain ⟨d, more, rfl, _⟩ := exists_of_charSpelled h
    simp only [List.length_append, List.length_cons]
    omega

/-- A string between double quotes is read as what it spells. -/
theorem basicString_of_spelled {s : String} {cs : List Char} (h : StringSpelled s cs)
    (rest : List Char) : basicString (cs ++ rest) = .ok (s, rest) := by
  cases h with | @quoted text h =>
  have hchars := Reader.collect_of_collects (collects_of_charsSpelled h true rest) ()
  show (do return .ofList (← Reader.collect () fun _ => basicChar) : Read String) (text ++ rest) = _
  rw [bind_ok hchars, String.ofList_toList]
  rfl

/-- A string on one line does not look like one over several lines, unless a quote follows the empty
one. -/
theorem not_isPrefixOf_of_spelled {s : String} {cs rest : List Char} (h : StringSpelled s cs)
    (hr : StopsAt (· == '"') rest) : ['"', '"', '"'].isPrefixOf (cs ++ rest) = false := by
  cases h with | quoted h =>
  generalize s.toList = chars at h
  cases h with
  | close =>
    cases rest with
    | nil => rfl
    | cons c rest =>
      have hc : (c == '"') = false := hr c rfl
      show ('"' == c && true) = false
      rw [Bool.and_true, BEq.comm, hc]
  | cons h _ =>
    obtain ⟨d, more, rfl, hd⟩ := exists_of_charSpelled h
    show ('"' == d && _) = false
    rw [beq_eq_false_iff_ne.mpr hd.symm, Bool.false_and]

theorem string_of_spelled {s : String} {cs rest : List Char} (h : StringSpelled s cs)
    (hr : StopsAt (· == '"') rest) : string (cs ++ rest) = .ok (s, rest) := by
  have hdouble : multilineString '"' true (cs ++ rest) = .error () := by
    refine bind_error ?_
    unfold literal
    rw [not_isPrefixOf_of_spelled h hr]
    rfl
  have hsingle : multilineString '\x27' false (cs ++ rest) = .error () := by
    cases h
    rfl
  unfold string either
  rw [hdouble]
  dsimp only
  rw [hsingle]
  dsimp only
  rw [basicString_of_spelled h rest]

/-! ## Spelling -/

theorem hexSpelled_pair {n : Nat} (h : n < 256) :
    HexSpelled n ['0', '0', Nat.digitChar (n / 16), Nat.digitChar (n % 16)] := by
  have hzero : hexValue? '0' = some 0 := rfl
  have hd := ((HexSpelled.nil.snoc hzero).snoc hzero).snoc
    (Json.hexValue_digitChar (n / 16) (by omega))
  have hn := hd.snoc (Json.hexValue_digitChar (n % 16) (by omega))
  rwa [show (((0 * 16 + 0) * 16 + 0) * 16 + n / 16) * 16 + n % 16 = n by omega] at hn

/-- What is not visible is a control, whose number has two hexadecimal digits. -/
theorem toNat_lt_of_not_visible {c : Char} (h : isVisible c = false) : c.toNat < 256 := by
  simp only [isVisible, Bool.or_eq_false_iff, Bool.and_eq_false_iff, decide_eq_false_iff_not] at h
  omega

theorem exists_charSpelled (c : Char) : ∃ cs, CharSpelled c cs := by
  by_cases hq : c = '"'
  · subst hq
    exact ⟨['\\', '"'], .short (by decide)⟩
  by_cases hb : c = '\\'
  · subst hb
    exact ⟨['\\', '\\'], .short (by decide)⟩
  cases hc : isVisible c with
  | true => exact ⟨_, .plain hq hb hc⟩
  | false =>
    have hn : CharSpelled (Char.ofNat c.toNat) ('\\' :: 'u' :: _) :=
      .numbered (hexSpelled_pair (toNat_lt_of_not_visible hc)) (List.mem_cons_self) c.valid
    rw [Char.ofNat_toNat] at hn
    exact ⟨_, hn⟩

/-- Every string can be written on one line. -/
theorem exists_stringSpelled (s : String) : ∃ cs, StringSpelled s cs := by
  have hchars : ∀ cs : List Char, ∃ text, CharsSpelled cs text := by
    intro cs
    induction cs with
    | nil => exact ⟨_, .close⟩
    | cons c cs ih =>
      obtain ⟨piece, hpiece⟩ := exists_charSpelled c
      obtain ⟨text, htext⟩ := ih
      exact ⟨_, .cons hpiece htext⟩
  obtain ⟨text, h⟩ := hchars s.toList
  exact ⟨_, .quoted h⟩

end AppVersions.Toml
