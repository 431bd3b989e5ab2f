-- All ways to write a number of JSON, and what its literal stands for. A number is read as it was
-- written, up to where it ends, and a whole one that fits into 64 bits is an integer.
import AppVersions.Json.Layout
import AppVersions.Json.Number
import AppVersions.Proofs.Readers

namespace AppVersions.Json

open AppVersions.Reader (StopsAt bind_ok stopsAt_cons)

/-! ## Where numbers end -/

/-- Characters that a number may go on with after its first digits. -/
def belongsToNumber (c : Char) : Bool := c.isDigit || c == '.' || c == 'e' || c == 'E'

/-- A number is over in front of this text. -/
abbrev Ends (rest : List Char) : Prop := StopsAt belongsToNumber rest

theorem stopsAt_isDigit_of_ends {rest : List Char} (h : Ends rest) :
    StopsAt Char.isDigit rest := by
  intro c hc
  have := h c hc
  simp only [belongsToNumber, Bool.or_eq_false_iff] at this
  exact this.1.1.1

theorem exponentPart_of_ends {rest : List Char} (h : Ends rest) :
    exponentPart rest = .ok (none, rest) := by
  unfold exponentPart
  rw [bind_ok (Reader.peek_apply rest)]
  unfold Ends StopsAt at h
  generalize rest.head? = o at h
  split
  · cases h _ rfl
  · cases h _ rfl
  · rfl

/-! ## Digits -/

/-- Only zero begins with a zero. -/
theorem head_toDigits {n : Nat} (h : n ≠ 0) : (Nat.toDigits 10 n).head? ≠ some '0' := by
  induction n using Nat.base_induction 10 (by decide) with
  | single m hm =>
    have hd : ∀ d < 10, d ≠ 0 → [Nat.digitChar d].head? ≠ some '0' := by decide
    rw [Nat.toDigits_of_lt_base hm]
    exact hd m hm h
  | digit m k hk hm ih =>
    have ih := ih (by omega)
    obtain ⟨c, cs, hc⟩ := List.exists_cons_of_ne_nil (Nat.toDigits_ne_nil (n := m) (b := 10))
    rw [hc] at ih
    rw [← Nat.toDigits_append_toDigits (by decide) hm hk, hc]
    exact ih

theorem le_ofDigitChars (n : Nat) (ds : List Char) : n ≤ Nat.ofDigitChars 10 ds n := by
  induction ds generalizing n with
  | nil => exact Nat.le_refl n
  | cons d ds ih =>
    rw [Nat.ofDigitChars_cons]
    exact Nat.le_trans (by omega) (ih _)

/-- Digits of a number that fits into 64 bits are all taken. -/
theorem absorb_of_le {n : Nat} {ds : List Char} (h : Nat.ofDigitChars 10 ds n ≤ maxWord) :
    absorb n ds = (Nat.ofDigitChars 10 ds n, ds.length) := by
  induction ds generalizing n with
  | nil => rfl
  | cons d ds ih =>
    rw [Nat.ofDigitChars_cons, Nat.mul_comm] at h ⊢
    unfold absorb
    dsimp only
    rw [if_neg (Nat.not_lt.mpr (Nat.le_trans (le_ofDigitChars _ ds) h)), ih h]
    rfl

/-- One digit at least. -/
def Digits (ds : List Char) : Prop := ds ≠ [] ∧ ∀ c ∈ ds, c.isDigit = true

instance (ds : List Char) : Decidable (Digits ds) :=
  decidable_of_iff (ds ≠ [] ∧ ds.all Char.isDigit = true) (and_congr_right fun _ => List.all_eq_true)

theorem digits_toDigits (n : Nat) : Digits (Nat.toDigits 10 n) :=
  ⟨Nat.toDigits_ne_nil, fun _ => Nat.isDigit_of_mem_toDigits (by decide) (by decide)⟩

theorem exists_of_digits {ds : List Char} (h : Digits ds) :
    ∃ c cs, ds = c :: cs ∧ c.isDigit = true := by
  obtain ⟨c, cs, rfl⟩ := List.exists_cons_of_ne_nil h.1
  exact ⟨c, cs, rfl, h.2 c List.mem_cons_self⟩

theorem digitRun_of_digits {ds rest : List Char} (hd : Digits ds) (h : StopsAt Char.isDigit rest) :
    digitRun (ds ++ rest) = .ok (ds, rest) := by
  obtain ⟨c, cs, rfl, hc⟩ := exists_of_digits hd
  unfold digitRun
  rw [bind_ok (Reader.peek_apply _)]
  dsimp only [List.cons_append, List.head?_cons]
  rw [if_pos hc]
  exact Reader.takeWhile_apply_of_run hd.2 h

theorem wholeDigits_of_digits {ds rest : List Char} (hd : Digits ds)
    (hz : ds.head? = some '0' → ds.length = 1) (h : StopsAt Char.isDigit rest) :
    wholeDigits (ds ++ rest) = .ok (ds, rest) := by
  unfold wholeDigits
  rw [bind_ok (digitRun_of_digits hd h), if_neg (fun hl => hl.2 (hz hl.1))]
  rfl

/-- The digits of a number have no zero in front, unless they are a single one. -/
theorem length_of_head_toDigits {n : Nat} (h : (Nat.toDigits 10 n).head? = some '0') :
    (Nat.toDigits 10 n).length = 1 := by
  by_cases hn : n = 0
  · rw [hn]
    rfl
  · exact absurd h (head_toDigits hn)

/-! ## Literals -/

inductive FractionSpelled : Option (List Char) → List Char → Prop
  | absent : FractionSpelled none []
  | digits {ds : List Char} (h : Digits ds) : FractionSpelled (some ds) ('.' :: ds)

/-- The sign of an exponent; a plus may be left out. -/
inductive SignSpelled : Bool → List Char → Prop
  | minus : SignSpelled true ['-']
  | plus : SignSpelled false ['+']
  | absent : SignSpelled false []

inductive ExponentSpelled : Option (Bool × List Char) → List Char → Prop
  | absent : ExponentSpelled none []
  | digits {mark : Char} {below : Bool} {sign ds : List Char} (hm : mark = 'e' ∨ mark = 'E')
      (hs : SignSpelled below sign) (h : Digits ds) :
      ExponentSpelled (some (below, ds)) (mark :: (sign ++ ds))

/-- A number as it may be written: a zero in front of the point stands alone. -/
inductive LiteralSpelled : NumberLiteral → List Char → Prop
  | parts {negative : Bool} {whole : List Char} {fraction : Option (List Char)}
      {exponent : Option (Bool × List Char)} {fractionText exponentText : List Char}
      (hw : Digits whole) (hz : whole.head? = some '0' → whole.length = 1)
      (hf : FractionSpelled fraction fractionText) (he : ExponentSpelled exponent exponentText) :
      LiteralSpelled ⟨negative, whole, fraction, exponent⟩
        ((if negative then ['-'] else []) ++ (whole ++ (fractionText ++ exponentText)))

theorem not_isDigit_of_mark {mark : Char} (h : mark = 'e' ∨ mark = 'E') :
    mark.isDigit = false := by
  rcases h with rfl | rfl <;> rfl

/-- Behind the digits before the point no digit follows. -/
theorem stopsAt_of_fraction {fraction : Option (List Char)} {cs rest : List Char}
    (h : FractionSpelled fraction cs) (hr : StopsAt Char.isDigit rest) :
    StopsAt Char.isDigit (cs ++ rest) := by
  cases h with
  | absent => exact hr
  | digits _ => exact stopsAt_cons rfl _

theorem stopsAt_of_exponent {exponent : Option (Bool × List Char)} {cs rest : List Char}
    (h : ExponentSpelled exponent cs) (hr : Ends rest) : StopsAt Char.isDigit (cs ++ rest) := by
  cases h with
  | absent => exact stopsAt_isDigit_of_ends hr
  | digits hm _ _ => exact stopsAt_cons (not_isDigit_of_mark hm) _

theorem fractionPart_of_spelled {fraction : Option (List Char)} {cs rest : List Char}
    (h : FractionSpelled fraction cs) (hr : StopsAt Char.isDigit rest)
    (hp : rest.head? ≠ some '.') : fractionPart (cs ++ rest) = .ok (fraction, rest) := by
  cases h with
  | absent =>
    unfold fractionPart
    rw [List.nil_append, bind_ok (Reader.peek_apply _)]
    generalize rest.head? = o at hp
    split
    · exact absurd rfl hp
    · rfl
  | @digits ds h =>
    unfold fractionPart
    rw [bind_ok (Reader.peek_apply _)]
    show (do return some (← digitRun) : Read _) (ds ++ rest) = _
    rw [bind_ok (digitRun_of_digits h hr)]
    rfl

/-- What an exponent is read as, after its mark. -/
theorem exponentPart_of_mark {mark : Char} (h : mark = 'e' ∨ mark = 'E') (cs : List Char) :
    exponentPart (mark :: cs) = (do
      match ← Reader.peek with
      | some '-' =>
        let _ ← Reader.next
        return some (true, ← digitRun)
      | some '+' =>
        let _ ← Reader.next
        return some (false, ← digitRun)
      | _ => return some (false, ← digitRun) : Read _) cs := by
  rcases h with rfl | rfl <;> rfl

theorem exponentPart_of_spelled {exponent : Option (Bool × List Char)} {cs rest : List Char}
    (h : ExponentSpelled exponent cs) (hr : Ends rest) :
    exponentPart (cs ++ rest) = .ok (exponent, rest) := by
  cases h with
  | absent => exact exponentPart_of_ends hr
  | @digits mark below sign ds hm hs hd =>
    have hrun := digitRun_of_digits hd (stopsAt_isDigit_of_ends hr)
    have hdone : ∀ below : Bool, (do return some (below, ← digitRun) : Read _) (ds ++ rest) =
        .ok (some (below, ds), rest) := by
      intro below
      rw [bind_ok hrun]
      rfl
    rw [List.cons_append, exponentPart_of_mark hm, List.append_assoc]
    cases hs with
    | minus => exact hdone true
    | plus => exact hdone false
    | absent =>
      obtain ⟨c, cs, rfl, hc⟩ := exists_of_digits hd
      have hhead : (c :: cs ++ rest).head? = some c := rfl
      rw [List.nil_append, bind_ok (Reader.peek_apply _), hhead]
      generalize ho : some c = o
      split
      · cases ho
        cases hc
      · cases ho
        cases hc
      · exact hdone false

theorem head_ne_point {exponent : Option (Bool × List Char)} {cs rest : List Char}
    (h : ExponentSpelled exponent cs) (hr : Ends rest) : (cs ++ rest).head? ≠ some '.' := by
  cases h with
  | absent =>
    intro hp
    cases hr '.' hp
  | digits hm _ _ =>
    rintro ⟨⟩
    rcases hm with hm | hm <;> cases hm

/-- A number is read as it was written, up to where it ends. -/
theorem numberLiteral_of_spelled {n : NumberLiteral} {cs rest : List Char}
    (h : LiteralSpelled n cs) (hr : Ends rest) : numberLiteral (cs ++ rest) = .ok (n, rest) := by
  obtain @⟨negative, whole, fraction, exponent, fractionText, exponentText, hw, hz, hf, he⟩ := h
  have hexp := exponentPart_of_spelled he hr
  have hstop := stopsAt_of_exponent he hr
  have hfrac := fractionPart_of_spelled hf hstop (head_ne_point he hr)
  have hwhole := wholeDigits_of_digits hw hz (stopsAt_of_fraction hf hstop)
  -- what is read after the sign
  have hparts : (do
      let whole ← wholeDigits
      let fraction ← fractionPart
      let exponent ← exponentPart
      return ⟨negative, whole, fraction, exponent⟩ : Read NumberLiteral)
        (whole ++ (fractionText ++ exponentText) ++ rest) =
          .ok (⟨negative, whole, fraction, exponent⟩, rest) := by
    rw [List.append_assoc, List.append_assoc, bind_ok hwhole, bind_ok hfrac, bind_ok hexp]
    rfl
  unfold numberLiteral
  rw [bind_ok (Reader.peek_apply _)]
  cases negative with
  | true => exact hparts
  | false =>
    obtain ⟨c, ds, rfl, hc⟩ := exists_of_digits hw
    have hne : ¬some c = some '-' := by
      rintro ⟨⟩
      cases hc
    have hhead : ((if false then ['-'] else []) ++ (c :: ds ++ (fractionText ++ exponentText)) ++
      rest).head? = some c := rfl
    rw [hhead, if_neg hne, decide_eq_false hne]
    exact hparts

/-! ## Whole numbers -/

/-- The literal of a whole number. -/
def NumberLiteral.ofInt (n : Int) : NumberLiteral :=
  ⟨decide (n < 0), Nat.toDigits 10 n.natAbs, none, none⟩

theorem literalSpelled_showInt (n : Int) : LiteralSpelled (.ofInt n) (showInt n) := by
  have h := @LiteralSpelled.parts (decide (n < 0)) _ _ _ _ _ (digits_toDigits n.natAbs)
    length_of_head_toDigits .absent .absent
  simp only [decide_eq_true_eq, List.append_nil] at h
  exact h

theorem absorb_toDigits {n : Nat} (h : n ≤ maxWord) :
    absorb 0 (Nat.toDigits 10 n) = (n, (Nat.toDigits 10 n).length) := by
  rw [absorb_of_le (by rwa [Nat.ofDigitChars_ten_toDigits]), Nat.ofDigitChars_ten_toDigits]

theorem value_ofInt_of_fits {n : Int} (hl : -9223372036854775808 ≤ n)
    (hu : n ≤ 18446744073709551615) : (NumberLiteral.ofInt n).value = .ok (.integer n) := by
  have habsorb := absorb_toDigits (n := n.natAbs) (by unfold maxWord; omega)
  unfold NumberLiteral.ofInt NumberLiteral.value
  dsimp only
  rw [habsorb]
  dsimp only
  rw [if_neg (by omega)]
  by_cases hn : n < 0
  · rw [if_neg (by simp [hn]), if_neg (by omega)]
    rw [show -(n.natAbs : Int) = n by omega]
  · rw [if_pos (by simp [hn])]
    rw [show (n.natAbs : Int) = n by omega]

/-! ## What literals stand for -/

/-- A floating-point number, or one that is too large. -/
def IsReal (x : Except Fault Found) : Prop := (∃ text, x = .ok (.real text)) ∨ x = .error .malformed

theorem isReal_realValue (negative : Bool) (significand : Nat) (exponent : Int) :
    IsReal (realValue negative significand exponent) := by
  unfold realValue
  split
  · exact .inl ⟨_, rfl⟩
  · exact .inr rfl

/-- A fraction or an exponent makes a number a floating-point one. -/
theorem isReal_value {n : NumberLiteral} (h : n.fraction ≠ none ∨ n.exponent ≠ none) :
    IsReal n.value := by
  obtain ⟨negative, whole, fraction, exponent⟩ := n
  unfold NumberLiteral.value
  dsimp only
  split
  · rcases h with h | h <;> exact absurd rfl h
  · split
    · exact isReal_realValue _ _ _
    · split
      · split
        · exact .inr rfl
        · exact .inl ⟨_, rfl⟩
      · exact isReal_realValue _ _ _

theorem integer_or_isReal (n : NumberLiteral) :
    (∃ m, n.value = .ok (.integer m)) ∨ IsReal n.value := by
  obtain ⟨negative, whole, _ | fraction, exponent⟩ := n
  · cases exponent with
    | some _ => exact .inr (isReal_value (.inr (Option.some_ne_none _)))
    | none =>
      unfold NumberLiteral.value
      dsimp only
      split
      · exact .inr (isReal_realValue _ _ _)
      · split
        · exact .inl ⟨_, rfl⟩
        · split
          · exact .inr (isReal_realValue _ _ _)
          · exact .inl ⟨_, rfl⟩
  · exact .inr (isReal_value (.inl (Option.some_ne_none _)))

/-- Digits that are all appended make a number of 64 bits. -/
theorem le_of_absorb {n : Nat} {ds : List Char} (hn : n ≤ maxWord)
    (h : (absorb n ds).2 = ds.length) : Nat.ofDigitChars 10 ds n ≤ maxWord := by
  induction ds generalizing n with
  | nil => exact hn
  | cons d ds ih =>
    unfold absorb at h
    dsimp only at h
    rw [Nat.ofDigitChars_cons, Nat.mul_comm]
    split at h
    · cases h
    · exact ih (by omega) (Nat.succ.inj h)

/-- A whole number outside 64 bits is read as a floating-point number. -/
theorem isReal_value_ofInt {n : Int} (h : n < -9223372036854775808 ∨ 18446744073709551615 < n) :
    IsReal (NumberLiteral.ofInt n).value := by
  unfold NumberLiteral.ofInt NumberLiteral.value
  dsimp only
  by_cases hm : n.natAbs ≤ maxWord
  · have hn : n < -9223372036854775808 := by
      unfold maxWord at hm
      omega
    rw [absorb_toDigits hm]
    dsimp only
    rw [if_neg (by omega), if_neg (by simp; omega), if_pos (by omega)]
    exact isReal_realValue _ _ _
  · have hne : (absorb 0 (Nat.toDigits 10 n.natAbs)).2 ≠ (Nat.toDigits 10 n.natAbs).length := by
      intro he
      have := le_of_absorb (Nat.zero_le _) he
      rw [Nat.ofDigitChars_ten_toDigits] at this
      exact hm this
    rw [if_pos (by omega)]
    exact isReal_realValue _ _ _

end AppVersions.Json
