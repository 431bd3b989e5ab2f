-- The laws of the written form of instants: reading takes each part off the text that writing put
-- there, so a moment is given back, whatever its year, its fraction and its 61st second.
import AppVersions.Instant.Reading
import AppVersions.Proofs.Readers
import Mathlib.Algebra.Group.Nat.Defs

namespace AppVersions.Instant

open AppVersions.Reader (StopsAt bind_ok stopsAt_cons)
open AppVersions.Text (isBlank)

/-! ## Digits -/

theorem isDigit_of_mem_padded {width n : Nat} {c : Char} (h : c ∈ padded width n) :
    c.isDigit = true := by
  unfold padded List.leftpad at h
  rcases List.mem_append.mp h with h | h
  · rw [(List.mem_replicate.mp h).2]
    rfl
  · exact Nat.isDigit_of_mem_toDigits (by decide) (by decide) h

theorem exists_padded (width n : Nat) : ∃ c cs, padded width n = c :: cs ∧ c.isDigit = true := by
  have hne : padded width n ≠ [] := by
    unfold padded List.leftpad
    exact List.append_ne_nil_of_right_ne_nil _ Nat.toDigits_ne_nil
  obtain ⟨c, cs, h⟩ := List.exists_cons_of_ne_nil hne
  exact ⟨c, cs, h, isDigit_of_mem_padded (h ▸ List.mem_cons_self)⟩

theorem ofDigitChars_padded (width n : Nat) : Nat.ofDigitChars 10 (padded width n) 0 = n := by
  unfold padded List.leftpad
  rw [Nat.ofDigitChars_append, Nat.ofDigitChars_replicate_zero, Nat.mul_zero,
    Nat.ofDigitChars_ten_toDigits]

theorem length_padded {width n : Nat} (hw : 0 < width) (hn : n < 10 ^ width) :
    (padded width n).length = width := by
  have := (Nat.length_toDigits_le_iff (by decide) hw).mpr hn
  unfold padded
  rw [List.length_leftpad]
  omega

theorem not_isBlank_of_isDigit {c : Char} (h : c.isDigit = true) : isBlank c = false := by
  unfold Char.isDigit at h
  simp only [Bool.and_eq_true, decide_eq_true_eq, ge_iff_le, UInt32.le_iff_toNat_le] at h
  have hl : 48 ≤ c.toNat := h.1
  have hu : c.toNat ≤ 57 := h.2
  simp [isBlank]
  omega

theorem digits_of_run {most : Option Nat} {run rest : List Char} (hne : run ≠ [])
    (hd : ∀ c ∈ run, c.isDigit = true) (hr : StopsAt Char.isDigit rest)
    (hm : ∀ n ∈ most, run.length ≤ n) : digits most (run ++ rest) = .ok (run, rest) := by
  obtain ⟨c, cs, rfl⟩ := List.exists_cons_of_ne_nil hne
  have hlen : (most.getD (c :: cs).length).min (c :: cs).length = (c :: cs).length := by
    cases most with
    | none => exact Nat.min_self _
    | some n => exact Nat.min_eq_right (hm n rfl)
  show (if c.isDigit then _ else _) = _
  rw [if_pos (hd c List.mem_cons_self)]
  rw [Reader.takeWhile_of_run hd hr]
  show Except.ok (List.take _ _, List.drop _ _) = _
  rw [hlen, List.take_left, List.drop_left]

theorem digits_padded {most : Option Nat} {width n : Nat} {rest : List Char}
    (hr : StopsAt Char.isDigit rest) (hm : ∀ k ∈ most, (padded width n).length ≤ k) :
    digits most (padded width n ++ rest) = .ok (padded width n, rest) := by
  obtain ⟨c, cs, hc, _⟩ := exists_padded width n
  exact digits_of_run (by simp [hc]) (fun _ => isDigit_of_mem_padded) hr hm

theorem number_padded {most : Option Nat} {width n : Nat} {rest : List Char}
    (hr : StopsAt Char.isDigit rest) (hm : ∀ k ∈ most, (padded width n).length ≤ k) :
    number most (padded width n ++ rest) = .ok (n, rest) := by
  unfold number
  rw [bind_ok (digits_padded hr hm), ofDigitChars_padded]
  rfl

theorem skipBlanks_padded (width n : Nat) (rest : List Char) :
    skipBlanks (padded width n ++ rest) = .ok ((), padded width n ++ rest) := by
  obtain ⟨c, cs, hc, hd⟩ := exists_padded width n
  rw [hc]
  exact Reader.skipWhile_of_stop (stopsAt_cons (not_isBlank_of_isDigit hd) _)

/-! ## Parts -/

theorem twoDigits_padded {low high n : Nat} {rest : List Char} (hr : StopsAt Char.isDigit rest)
    (hl : low ≤ n) (hh : n ≤ high) (hb : high < 100) :
    twoDigits low high (padded 2 n ++ rest) = .ok (n, rest) := by
  have hm : ∀ k ∈ some 2, (padded 2 n).length ≤ k := by
    rintro k ⟨⟩
    exact Nat.le_of_eq (length_padded (by decide) (by omega))
  unfold twoDigits
  rw [bind_ok (skipBlanks_padded 2 n rest), bind_ok (number_padded hr hm)]
  unfold ensure
  rw [if_pos (by simp [hl, hh])]
  rfl

theorem mark_cons {c : Char} (h : isBlank c = false) (rest : List Char) :
    mark c (c :: rest) = .ok ((), rest) := by
  have hb : skipBlanks (c :: rest) = .ok ((), c :: rest) :=
    Reader.skipWhile_of_stop (stopsAt_cons h rest)
  unfold mark
  rw [bind_ok hb, bind_ok (Reader.next_cons c rest)]
  dsimp only
  rw [if_pos rfl]
  rfl

theorem signedNumber_padded {n : Nat} {rest : List Char} (hn : n < 10000)
    (hr : StopsAt Char.isDigit rest) :
    signedNumber (padded 4 n ++ rest) = .ok ((n : Int), rest) := by
  obtain ⟨c, cs, hc, hd⟩ := exists_padded 4 n
  have hminus : c ≠ '-' := by rintro rfl; cases hd
  have hplus : c ≠ '+' := by rintro rfl; cases hd
  have hm : ∀ k ∈ some 4, (padded 4 n).length ≤ k := by
    rintro k ⟨⟩
    exact Nat.le_of_eq (length_padded (by decide) hn)
  have hhead : (padded 4 n ++ rest).head? = some c := by
    rw [hc]
    rfl
  unfold signedNumber
  rw [bind_ok (Reader.peek_apply _)]
  generalize (padded 4 n ++ rest).head? = o at hhead
  split
  · exact absurd (Option.some.inj hhead.symm) hminus
  · exact absurd (Option.some.inj hhead.symm) hplus
  · rw [bind_ok (number_padded hr hm)]
    rfl

theorem signedNumber_minus (n : Nat) {rest : List Char} (hr : StopsAt Char.isDigit rest) :
    signedNumber ('-' :: padded 4 n ++ rest) = .ok (-(n : Int), rest) := by
  have hn : number none (padded 4 n ++ rest) = .ok (n, rest) := number_padded hr nofun
  unfold signedNumber
  rw [List.cons_append, bind_ok (Reader.peek_apply _)]
  show (do let _ ← Reader.next; return -(← number none : Nat) : Read Int) _ = _
  rw [bind_ok (Reader.next_cons _ _), bind_ok hn]
  rfl

theorem signedNumber_plus (n : Nat) {rest : List Char} (hr : StopsAt Char.isDigit rest) :
    signedNumber ('+' :: padded 4 n ++ rest) = .ok ((n : Int), rest) := by
  have hn : number none (padded 4 n ++ rest) = .ok (n, rest) := number_padded hr nofun
  unfold signedNumber
  rw [List.cons_append, bind_ok (Reader.peek_apply _)]
  show (do let _ ← Reader.next; return (← number none : Nat) : Read Int) _ = _
  rw [bind_ok (Reader.next_cons _ _), bind_ok hn]
  rfl

theorem signedNumber_showYear {year : Int} {rest : List Char} (hr : StopsAt Char.isDigit rest) :
    signedNumber (showYear year ++ rest) = .ok (year, rest) := by
  unfold showYear
  split
  · rename_i hy
    rw [signedNumber_padded (by omega) hr, Int.toNat_of_nonneg hy.1]
  · by_cases hs : year < 0
    · rw [if_pos hs, signedNumber_minus year.natAbs hr]
      rw [show -(year.natAbs : Int) = year by omega]
    · rw [if_neg hs, signedNumber_plus year.natAbs hr]
      rw [show (year.natAbs : Int) = year by omega]

theorem year_showYear {y : Int} {rest : List Char} (hl : -2147483648 ≤ y) (hu : y ≤ 2147483647)
    (hr : StopsAt Char.isDigit rest) : year (showYear y ++ rest) = .ok (y, rest) := by
  have hb : skipBlanks (showYear y ++ rest) = .ok ((), showYear y ++ rest) := by
    unfold showYear
    split
    · exact skipBlanks_padded 4 _ rest
    · split <;> exact Reader.skipWhile_of_stop (stopsAt_cons (by decide) _)
  unfold year
  rw [bind_ok hb, bind_ok (signedNumber_showYear hr)]
  unfold ensure
  rw [if_pos (by simp [hl, hu])]
  rfl

/-- A fraction of `width` digits stands for as many nanoseconds as its missing digits say. -/
theorem fraction_padded {width n : Nat} {rest : List Char} (hw : 0 < width) (hw' : width ≤ 9)
    (hn : n < 10 ^ width) (hr : StopsAt Char.isDigit rest) :
    fraction ('.' :: padded width n ++ rest) = .ok (n * 10 ^ (9 - width), rest) := by
  have hl := length_padded hw hn
  have hd : digits (some 9) (padded width n ++ rest) = .ok (padded width n, rest) := by
    refine digits_padded hr ?_
    rintro k ⟨⟩
    omega
  unfold fraction
  rw [bind_ok (Reader.peek_apply _)]
  show (do
    let _ ← Reader.next
    let ds ← digits (some 9)
    Reader.skipWhile Char.isDigit
    return Nat.ofDigitChars 10 ds 0 * Nat.pow 10 (9 - ds.length) : Read Nat) _ = _
  rw [List.cons_append, bind_ok (Reader.next_cons _ _), bind_ok hd,
    bind_ok (Reader.skipWhile_of_stop hr), ofDigitChars_padded, hl]
  rfl

theorem fraction_showFraction {n : Nat} (hn : n < 1000000000) (rest : List Char) :
    fraction (showFraction n ++ 'Z' :: rest) = .ok (n, 'Z' :: rest) := by
  have hr : StopsAt Char.isDigit ('Z' :: rest) := stopsAt_cons (by decide) rest
  unfold showFraction
  split
  · rename_i h
    rw [h]
    rfl
  split
  · rw [fraction_padded (by decide) (by decide) (by omega) hr]
    rw [show n / 1000000 * 10 ^ (9 - 3) = n by omega]
  split
  · rw [fraction_padded (by decide) (by decide) (by omega) hr]
    rw [show n / 1000 * 10 ^ (9 - 6) = n by omega]
  · rw [fraction_padded (by decide) (by decide) (by omega) hr]
    rw [show n * 10 ^ (9 - 9) = n by omega]

theorem stopsAt_showFraction (n : Nat) : StopsAt Char.isDigit (showFraction n ++ ['Z']) := by
  unfold showFraction
  repeat' split
  all_goals exact stopsAt_cons (by decide) _

/-! ## The whole -/

theorem monthLength_le (year : Int) (month : Nat) : Date.monthLength year month ≤ 31 := by
  unfold Date.monthLength
  repeat' split
  all_goals decide

theorem parts_chars (t : Instant) : parts t.chars =
    .ok ((t.date, t.hour, t.minute, t.second, t.nanosecond, 0), []) := by
  obtain ⟨⟨y, m, d⟩, hour, minute, second, nanosecond, hdate, hhour, hminute, hsecond, hnano⟩ := t
  obtain ⟨hy, hy', hm, hm', hd, hd'⟩ := hdate
  have hd' : d ≤ 31 := Nat.le_trans hd' (monthLength_le y m)
  have hy : -262143 ≤ y := hy
  have hy' : y ≤ 262142 := hy'
  have hdash : ∀ cs, StopsAt Char.isDigit ('-' :: cs) := stopsAt_cons (by decide)
  have hcolon : ∀ cs, StopsAt Char.isDigit (':' :: cs) := stopsAt_cons (by decide)
  have htime : ∀ cs, StopsAt Char.isDigit ('T' :: cs) := stopsAt_cons (by decide)
  have hseparator : ∀ cs, separator ('T' :: cs) = .ok ((), cs) := fun _ => rfl
  have hzone : zone ['Z'] = .ok (0, []) := rfl
  have hend : skipBlanks [] = .ok ((), []) := rfl
  unfold chars
  simp only [List.append_assoc, List.cons_append]
  unfold parts
  rw [bind_ok (year_showYear (by omega) (by omega) (hdash _)),
    bind_ok (mark_cons (by decide) _),
    bind_ok (twoDigits_padded (hdash _) hm hm' (by decide)),
    bind_ok (mark_cons (by decide) _),
    bind_ok (twoDigits_padded (htime _) hd hd' (by decide)),
    bind_ok (hseparator _),
    bind_ok (twoDigits_padded (hcolon _) (Nat.zero_le _) (by omega) (by decide)),
    bind_ok (mark_cons (by decide) _),
    bind_ok (twoDigits_padded (hcolon _) (Nat.zero_le _) (by omega) (by decide)),
    bind_ok (mark_cons (by decide) _),
    bind_ok (twoDigits_padded (stopsAt_showFraction _) (Nat.zero_le _) hsecond (by decide)),
    bind_ok (fraction_showFraction hnano []), bind_ok hzone, bind_ok hend]
  rfl

/-- Without a distance from coordinated universal time nothing is shifted. -/
theorem ofLocal?_zero (t : Instant) :
    ofLocal? t.date t.hour t.minute t.second t.nanosecond 0 = some t := by
  obtain ⟨date, hour, minute, second, nanosecond, hv⟩ := t
  have hhour := hv.2.1
  have hminute := hv.2.2.1
  have hh : ((hour * 60 + minute : Int) - 0).toNat / 60 = hour := by omega
  have hm : ((hour * 60 + minute : Int) - 0).toNat % 60 = minute := by omega
  unfold ofLocal?
  dsimp only
  rw [if_neg (by omega), if_neg (by omega)]
  simp only [hh, hm]
  exact dif_pos hv

/-- A moment is read from its text. -/
theorem read_text (t : Instant) : read t.text = .ok t := by
  have hchars : t.text.toList = t.chars := String.toList_ofList
  unfold read
  rw [hchars, parts_chars]
  have hvalid : ¬(¬t.date.Valid ∨ 1440 ≤ (0 : Int).natAbs) := by simp [t.valid.1]
  simp only [bind, Except.bind, if_neg hvalid, ofLocal?_zero]
  rfl

end AppVersions.Instant
