-- The laws of tokens: blanks in front of a value do not matter, and its first character shows what
-- it is.
import AppVersions.Json.Value
import AppVersions.Proofs.Json.Number
import AppVersions.Proofs.Json.Quoted

namespace AppVersions.Json

open AppVersions.Reader (Answers StopsAt bind_ok stopsAt_cons)

/-! ## Blanks and literals -/

theorem peekToken_cons {c : Char} (h : isBlank c = false) (cs : List Char) :
    peekToken (c :: cs) = .ok (some c, c :: cs) := by
  have hb : skipBlanks (c :: cs) = .ok ((), c :: cs) := Reader.skipWhile_of_stop (stopsAt_cons h cs)
  unfold peekToken
  rw [bind_ok hb]
  rfl

/-- Blanks are no tokens. -/
theorem peekToken_of_blanks {blanks : List Char} (h : ∀ c ∈ blanks, isBlank c = true)
    (cs : List Char) : peekToken (blanks ++ cs) = peekToken cs := by
  have hs : skipBlanks (blanks ++ cs) = skipBlanks cs :=
    congrArg (fun cs => Except.ok ((), cs)) (List.dropWhile_append_of_pos h)
  exact Reader.bind_congr_of_eq hs _

/-! ## Tokens -/

theorem token_of_blanks {blanks : List Char} (h : ∀ c ∈ blanks, isBlank c = true)
    (cs : List Char) : token (blanks ++ cs) = token cs :=
  Reader.bind_congr_of_eq (peekToken_of_blanks h cs) _

theorem token_flag (b : Bool) (rest : List Char) :
    token ((if b then "true" else "false").toList ++ rest) = .ok (.flag b, rest) := by
  cases b <;> rfl

theorem ne_of_sign {c d : Char} (hc : c = '-' ∨ c.isDigit = true) (hm : d ≠ '-')
    (hd : d.isDigit = false) : c ≠ d := by
  rintro rfl
  rcases hc with hc | hc
  · exact hm hc
  · rw [hd] at hc
    cases hc

theorem not_isBlank_of_sign {c : Char} (hc : c = '-' ∨ c.isDigit = true) : isBlank c = false := by
  have hne : ∀ d : Char, d ≠ '-' → d.isDigit = false → (c == d) = false :=
    fun d hm hd => beq_eq_false_iff_ne.mpr (ne_of_sign hc hm hd)
  unfold isBlank
  rw [hne ' ' (by decide) rfl, hne '\n' (by decide) rfl, hne '\t' (by decide) rfl,
    hne '\r' (by decide) rfl]
  rfl

theorem exists_of_literal {n : NumberLiteral} {cs : List Char} (h : LiteralSpelled n cs) :
    ∃ c text, cs = c :: text ∧ (c = '-' ∨ c.isDigit = true) := by
  cases h with | @parts negative whole _ _ _ _ hw _ _ _ =>
  cases negative with
  | true => exact ⟨'-', _, rfl, .inl rfl⟩
  | false =>
    obtain ⟨c, ds, rfl, hc⟩ := exists_of_digits hw
    exact ⟨c, _, rfl, .inr hc⟩

theorem exists_of_string {s : String} {cs : List Char} (h : StringSpelled s cs) :
    ∃ text, cs = '"' :: text := by
  cases h with | quoted h => exact ⟨_, rfl⟩

theorem answers_number {n : NumberLiteral} {cs rest : List Char} (h : LiteralSpelled n cs)
    (hr : Ends rest) : Answers token (cs ++ rest) n.value rest := by
  have hn := numberLiteral_of_spelled h hr
  obtain ⟨c, text, rfl, hs⟩ := exists_of_literal h
  unfold Answers token
  rw [List.cons_append, bind_ok (peekToken_cons (not_isBlank_of_sign hs) _)]
  dsimp only
  rw [if_neg (ne_of_sign hs (by decide) rfl), if_neg (ne_of_sign hs (by decide) rfl),
    if_neg (ne_of_sign hs (by decide) rfl), if_neg (ne_of_sign hs (by decide) rfl), if_pos hs]
  exact bind_ok hn

theorem answers_string {s : String} {cs : List Char} (h : StringSpelled s cs) (rest : List Char) :
    Answers token (cs ++ rest) (.ok (.text s)) rest := by
  have hs := string_of_spelled h rest
  obtain ⟨text, rfl⟩ := exists_of_string h
  show (do return .text (← string) : Read Found) ('"' :: text ++ rest) = _
  rw [bind_ok hs]
  rfl

end AppVersions.Json
