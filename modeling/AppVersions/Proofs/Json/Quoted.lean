-- All ways to write a string of JSON: any character may be escaped, by a short escape or by its
-- number. A string is read as what it spells, and quoting is one way to spell it.
import AppVersions.Json.Quoted
import AppVersions.Proofs.Readers

namespace AppVersions.Json

open AppVersions.Reader (Collects bind_ok)
open AppVersions.Text (hexValue?)

/-! ## Characters -/

/-- The characters that a backslash and one more character stand for. -/
def shortEscapes : List (Char × Char) :=
  [('"', '"'), ('\\', '\\'), ('/', '/'), ('b', '\x08'), ('f', '\x0c'), ('n', '\n'), ('r', '\r'),
    ('t', '\t')]

/-- Four hexadecimal digits in either case, and the number that they write. -/
inductive HexSpelled : Nat → List Char → Prop
  | digits {a b c d : Char} {k l m n : Nat} (ha : hexValue? a = some k) (hb : hexValue? b = some l)
      (hc : hexValue? c = some m) (hd : hexValue? d = some n) :
      HexSpelled (((k * 16 + l) * 16 + m) * 16 + n) [a, b, c, d]

/-- The ways to write one character inside a string. -/
inductive CharSpelled : Char → List Char → Prop
  | plain {c : Char} (hq : c ≠ '"') (hb : c ≠ '\\') (hc : ¬c.toNat < 0x20) : CharSpelled c [c]
  | short {c mark : Char} (h : (mark, c) ∈ shortEscapes) : CharSpelled c ['\\', mark]
  | numbered {n : Nat} {ds : List Char} (h : HexSpelled n ds) (hh : isHighSurrogate n = false)
      (hl : isLowSurrogate n = false) : CharSpelled (Char.ofNat n) ('\\' :: 'u' :: ds)
  | paired {high low : Nat} {ds es : List Char} (hd : HexSpelled high ds)
      (hh : isHighSurrogate high = true) (he : HexSpelled low es)
      (hl : isLowSurrogate low = true) :
      CharSpelled (Char.ofNat ((high - 0xD800) * 1024 + (low - 0xDC00) + 0x10000))
        ('\\' :: 'u' :: (ds ++ '\\' :: 'u' :: es))

theorem hex4_of_spelled {n : Nat} {ds : List Char} (h : HexSpelled n ds) (rest : List Char) :
    hex4 (ds ++ rest) = .ok (n, rest) := by
  obtain ⟨ha, hb, hc, hd⟩ := h
  unfold hex4
  simp only [List.cons_append, List.nil_append, ha, hb, hc, hd]

theorem stringChar_of_plain (resolve : Nat → Read Char) {c : Char} (hq : c ≠ '"') (hb : c ≠ '\\')
    (hc : ¬c.toNat < 0x20) (rest : List Char) :
    stringChar resolve (c :: rest) = .ok (some c, rest) := by
  unfold stringChar
  rw [bind_ok (Reader.next_cons _ _)]
  dsimp only
  rw [if_neg hq, if_neg hb, if_neg hc]
  rfl

theorem stringChar_of_short (resolve : Nat → Read Char) {c mark : Char}
    (h : (mark, c) ∈ shortEscapes) (rest : List Char) :
    stringChar resolve ('\\' :: mark :: rest) = .ok (some c, rest) := by
  simp only [shortEscapes, List.mem_cons, Prod.mk.injEq, List.not_mem_nil, or_false] at h
  rcases h with ⟨rfl, rfl⟩ | ⟨rfl, rfl⟩ | ⟨rfl, rfl⟩ | ⟨rfl, rfl⟩ | ⟨rfl, rfl⟩ | ⟨rfl, rfl⟩ |
    ⟨rfl, rfl⟩ | ⟨rfl, rfl⟩ <;> rfl

/-- A number in a string stands for what `resolve` says. -/
theorem stringChar_of_hex {resolve : Nat → Read Char} {n : Nat} {ds mid rest : List Char} {c : Char}
    (h : HexSpelled n ds) (hc : resolve n mid = .ok (c, rest)) :
    stringChar resolve ('\\' :: 'u' :: (ds ++ mid)) = .ok (some c, rest) := by
  have hescaped : escaped resolve ('u' :: (ds ++ mid)) = .ok (c, rest) := by
    show (do resolve (← hex4) : Read Char) (ds ++ mid) = _
    rw [bind_ok (hex4_of_spelled h mid)]
    exact hc
  show (do return some (← escaped resolve) : Read (Option Char)) ('u' :: (ds ++ mid)) = _
  rw [bind_ok hescaped]
  rfl

theorem paired_of_single {n : Nat} (hh : isHighSurrogate n = false) (hl : isLowSurrogate n = false)
    (rest : List Char) : paired n rest = .ok (Char.ofNat n, rest) := by
  unfold paired
  rw [if_neg (by simp [hl]), if_neg (by simp [hh])]
  rfl

theorem not_isLowSurrogate_of_high {n : Nat} (h : isHighSurrogate n = true) :
    isLowSurrogate n = false := by
  simp only [isHighSurrogate, isLowSurrogate, Bool.and_eq_true, decide_eq_true_eq,
    Bool.and_eq_false_iff, decide_eq_false_iff_not] at h ⊢
  omega

theorem paired_of_pair {high low : Nat} {es : List Char} (hh : isHighSurrogate high = true)
    (he : HexSpelled low es) (hl : isLowSurrogate low = true) (rest : List Char) :
    paired high ('\\' :: 'u' :: (es ++ rest)) =
      .ok (Char.ofNat ((high - 0xD800) * 1024 + (low - 0xDC00) + 0x10000), rest) := by
  have hlit : literal ['\\', 'u'] ('\\' :: 'u' :: (es ++ rest)) = .ok ((), es ++ rest) := rfl
  unfold paired
  rw [if_neg (by simp [not_isLowSurrogate_of_high hh]), if_pos hh, bind_ok hlit,
    bind_ok (hex4_of_spelled he rest), if_pos hl]
  rfl

theorem stringChar_of_spelled {c : Char} {cs : List Char} (h : CharSpelled c cs)
    (rest : List Char) : stringChar paired (cs ++ rest) = .ok (some c, rest) := by
  cases h with
  | plain hq hb hc => exact stringChar_of_plain paired hq hb hc rest
  | short h => exact stringChar_of_short paired h rest
  | numbered h hh hl => exact stringChar_of_hex h (paired_of_single hh hl rest)
  | paired hd hh he hl =>
    rw [List.cons_append, List.cons_append, List.append_assoc]
    exact stringChar_of_hex hd (paired_of_pair hh he hl rest)

theorem ne_nil_of_charSpelled {c : Char} {cs : List Char} (h : CharSpelled c cs) : cs ≠ [] := by
  cases h <;> exact List.cons_ne_nil _ _

/-! ## Strings -/

/-- The rest of a string after its opening quote. -/
inductive CharsSpelled : List Char → List Char → Prop
  | close : CharsSpelled [] ['"']
  | cons {c : Char} {cs piece text : List Char} (h : CharSpelled c piece)
      (hr : CharsSpelled cs text) : CharsSpelled (c :: cs) (piece ++ text)

inductive StringSpelled : String → List Char → Prop
  | quoted {s : String} {text : List Char} (h : CharsSpelled s.toList text) :
      StringSpelled s ('"' :: text)

theorem collects_of_spelled {cs text : List Char} (h : CharsSpelled cs text) (first : Bool)
    (rest : List Char) :
    Collects (fun _ => stringChar paired) first (text ++ rest) cs rest := by
  induction h generalizing first with
  | close => exact .done rfl
  | cons h _ ih =>
    rw [List.append_assoc]
    refine .more (stringChar_of_spelled h _) ?_ (ih false)
    have := List.length_pos_iff.mpr (ne_nil_of_charSpelled h)
    simp only [List.length_append]
    omega

/-- A string is read as what it spells. -/
theorem string_of_spelled {s : String} {cs : List Char} (h : StringSpelled s cs)
    (rest : List Char) : string (cs ++ rest) = .ok (s, rest) := by
  cases h with | @quoted text h =>
  have hrest := Reader.collect_of_collects (collects_of_spelled h true rest) Fault.truncated
  show (do return .ofList (← stringRest paired) : Read String) (text ++ rest) = _
  unfold stringRest
  rw [bind_ok hrest, String.ofList_toList]
  rfl

/-! ## Quoting -/

/-- The number of a control has two hexadecimal digits. -/
theorem leftpad_of_control : ∀ n < 32, (Nat.toDigits 16 n).leftpad 4 '0' =
    ['0', '0', Nat.digitChar (n / 16), Nat.digitChar (n % 16)] := by
  decide

theorem hexValue_digitChar : ∀ d < 16, hexValue? (Nat.digitChar d) = some d := by
  decide

theorem hexSpelled_of_control {n : Nat} (h : n < 32) :
    HexSpelled n ((Nat.toDigits 16 n).leftpad 4 '0') := by
  have hzero : hexValue? '0' = some 0 := rfl
  have hd := HexSpelled.digits hzero hzero (hexValue_digitChar (n / 16) (by omega))
    (hexValue_digitChar (n % 16) (by omega))
  rw [leftpad_of_control n h]
  rwa [show ((0 * 16 + 0) * 16 + n / 16) * 16 + n % 16 = n by omega] at hd

theorem charSpelled_of_control {c : Char} (h : c.toNat < 32) :
    CharSpelled c ('\\' :: 'u' :: (Nat.toDigits 16 c.toNat).leftpad 4 '0') := by
  have hh : isHighSurrogate c.toNat = false := by
    simp [isHighSurrogate]
    omega
  have hl : isLowSurrogate c.toNat = false := by
    simp [isLowSurrogate]
    omega
  have hc := CharSpelled.numbered (hexSpelled_of_control h) hh hl
  rwa [Char.ofNat_toNat] at hc

theorem charSpelled_escape (c : Char) : CharSpelled c (escape c) := by
  unfold escape
  -- the seven short escapes
  iterate 7
    split
    · rename_i h
      rw [h]
      exact .short (by decide)
  split
  · rename_i h
    exact charSpelled_of_control h
  · rename_i hquote hbackslash _ _ _ _ _ hcontrol
    exact .plain hquote hbackslash hcontrol

theorem charsSpelled_escape (cs : List Char) : CharsSpelled cs (cs.flatMap escape ++ ['"']) := by
  induction cs with
  | nil => exact .close
  | cons c cs ih =>
    rw [List.flatMap_cons, List.append_assoc]
    exact .cons (charSpelled_escape c) ih

theorem stringSpelled_quote (s : String) : StringSpelled s (quote s) :=
  .quoted (charsSpelled_escape s.toList)

end AppVersions.Json
