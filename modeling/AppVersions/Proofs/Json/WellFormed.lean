-- Well-formed JSON as such: how values are laid out, whatever their strings stand for. That is all
-- that is asked of a value that is passed over.
import AppVersions.Proofs.Json.Spelling
import Mathlib.Data.List.Forall2

namespace AppVersions.Json

open AppVersions.Reader (Collects Gathers bind_ok bind_error)

/-! ## Strings -/

/-- The rest of a string after its opening quote. Here a number may be half of a pair and stand
alone. -/
inductive CharsFormed : List Char → Prop
  | close : CharsFormed ['"']
  | plain {c : Char} {text : List Char} (hq : c ≠ '"') (hb : c ≠ '\\') (hc : ¬c.toNat < 0x20)
      (hr : CharsFormed text) : CharsFormed (c :: text)
  | short {c mark : Char} {text : List Char} (h : (mark, c) ∈ shortEscapes)
      (hr : CharsFormed text) : CharsFormed ('\\' :: mark :: text)
  | numbered {n : Nat} {ds text : List Char} (h : HexSpelled n ds) (hr : CharsFormed text) :
      CharsFormed ('\\' :: 'u' :: (ds ++ text))

inductive StringFormed : List Char → Prop
  | quoted {text : List Char} (h : CharsFormed text) : StringFormed ('"' :: text)

theorem charsFormed_of_spelled {cs text : List Char} (h : CharsSpelled cs text) :
    CharsFormed text := by
  induction h with
  | close => exact .close
  | cons h _ ih =>
    cases h with
    | plain hq hb hc => exact .plain hq hb hc ih
    | short h => exact .short h ih
    | numbered h _ _ => exact .numbered h ih
    | paired hd _ he _ =>
      rw [List.cons_append, List.cons_append, List.append_assoc]
      exact .numbered hd (.numbered he ih)

theorem stringFormed_of_spelled {s : String} {cs : List Char} (h : StringSpelled s cs) :
    StringFormed cs := by
  cases h with | quoted h =>
  exact .quoted (charsFormed_of_spelled h)

/-- Where nobody asks what a string stands for, every number in it is passed over as a character. -/
theorem collects_of_formed {text : List Char} (h : CharsFormed text) (first : Bool)
    (rest : List Char) :
    ∃ skipped, Collects (fun _ => stringChar fun _ => pure '\x00') first (text ++ rest) skipped
      rest := by
  induction h generalizing first with
  | close => exact ⟨[], .done rfl⟩
  | plain hq hb hc _ ih =>
    obtain ⟨skipped, hs⟩ := ih false
    exact ⟨_, .more (stringChar_of_plain _ hq hb hc _) (Nat.lt_succ_self _) hs⟩
  | @short _ _ text h _ ih =>
    obtain ⟨skipped, hs⟩ := ih false
    refine ⟨_, .more (stringChar_of_short _ h _) ?_ hs⟩
    show (text ++ rest).length < (text ++ rest).length + 2
    omega
  | numbered h _ ih =>
    obtain ⟨skipped, hs⟩ := ih false
    rw [List.cons_append, List.cons_append, List.append_assoc]
    refine ⟨_, .more (stringChar_of_hex h rfl) ?_ hs⟩
    simp only [List.length_append, List.length_cons]
    omega

theorem skipString_of_formed {cs : List Char} (h : StringFormed cs) (rest : List Char) :
    skipString (cs ++ rest) = .ok ((), rest) := by
  cases h with | @quoted text h =>
  obtain ⟨skipped, hs⟩ := collects_of_formed h true rest
  have hrest := Reader.collect_of_collects hs Fault.truncated
  show (do
    let _ ← stringRest fun _ => pure '\x00' : Read Unit) (text ++ rest) = _
  unfold stringRest
  rw [bind_ok hrest]
  rfl

/-! ## Strings that are no text -/

/-- The rest of a string spells characters, or it is refused. -/
def Told (text : List Char) : Prop :=
  (∃ cs, CharsSpelled cs text) ∨ ∀ first rest,
    Gathers (fun _ => stringChar paired) first (text ++ rest) (.error .malformed) rest

theorem told_cons {c : Char} {piece text : List Char} (h : CharSpelled c piece)
    (ht : Told text) : Told (piece ++ text) := by
  rcases ht with ⟨cs, hcs⟩ | hrefused
  · exact .inl ⟨c :: cs, .cons h hcs⟩
  · refine .inr fun first rest => ?_
    have := List.length_pos_iff.mpr (ne_nil_of_charSpelled h)
    rw [List.append_assoc]
    refine .more (stringChar_of_spelled h _) ?_ (hrefused false rest)
    simp only [List.length_append]
    omega

/-- A number is refused where it is half of a pair without the other half. -/
theorem told_of_refused {n : Nat} {ds text : List Char} (h : HexSpelled n ds)
    (hp : ∀ rest, paired n (text ++ rest) = .error .malformed) :
    Told ('\\' :: 'u' :: (ds ++ text)) := by
  refine .inr fun first rest => .fails ?_
  have hescaped : escaped paired ('u' :: (ds ++ (text ++ rest))) = .error .malformed := by
    show (do paired (← hex4) : Read Char) (ds ++ (text ++ rest)) = _
    rw [bind_ok (hex4_of_spelled h _)]
    exact hp rest
  rw [List.cons_append, List.cons_append, List.append_assoc]
  show (do return some (← escaped paired) : Read (Option Char)) _ = _
  exact bind_error hescaped

theorem paired_of_low {n : Nat} (h : isLowSurrogate n = true) (cs : List Char) :
    paired n cs = .error .malformed := by
  unfold paired
  rw [if_pos h]
  rfl

/-- The other half has to follow at once, as a number. -/
theorem paired_of_high {n : Nat} (h : isHighSurrogate n = true) {cs : List Char}
    (hcs : literal ['\\', 'u'] cs = .error .malformed) : paired n cs = .error .malformed := by
  unfold paired
  rw [if_neg (by simp [not_isLowSurrogate_of_high h]), if_pos h]
  exact bind_error hcs

theorem paired_of_other {n m : Nat} (h : isHighSurrogate n = true) {es : List Char}
    (he : HexSpelled m es) (hm : isLowSurrogate m = false) (rest : List Char) :
    paired n ('\\' :: 'u' :: (es ++ rest)) = .error .malformed := by
  have hlit : literal ['\\', 'u'] ('\\' :: 'u' :: (es ++ rest)) = .ok ((), es ++ rest) := rfl
  unfold paired
  rw [if_neg (by simp [not_isLowSurrogate_of_high h]), if_pos h, bind_ok hlit,
    bind_ok (hex4_of_spelled he rest), if_neg (by simp [hm])]
  rfl

theorem literal_of_short {c mark : Char} (h : (mark, c) ∈ shortEscapes) (cs : List Char) :
    literal ['\\', 'u'] ('\\' :: mark :: cs) = .error .malformed := by
  have hmark : 'u' ≠ mark := by
    rintro rfl
    simp [shortEscapes] at h
  show literal ['u'] (mark :: cs) = _
  unfold literal
  rw [bind_ok (Reader.next_cons _ _)]
  exact congrFun (if_neg hmark) cs

/-- The same after a number that is the first half of a pair. -/
theorem told_of_formed {text : List Char} (h : CharsFormed text) :
    Told text ∧ ∀ {n ds}, HexSpelled n ds → isHighSurrogate n = true →
      Told ('\\' :: 'u' :: (ds ++ text)) := by
  induction h with
  | close =>
    exact ⟨.inl ⟨[], .close⟩, fun hd hh => told_of_refused hd fun _ => paired_of_high hh rfl⟩
  | @plain c text hq hb hc _ ih =>
    refine ⟨told_cons (.plain hq hb hc) ih.1, fun hd hh => told_of_refused hd fun rest => ?_⟩
    refine paired_of_high hh ?_
    unfold literal
    rw [List.cons_append, bind_ok (Reader.next_cons _ _)]
    exact congrFun (if_neg (Ne.symm hb)) _
  | short h _ ih =>
    refine ⟨told_cons (.short h) ih.1, fun hd hh => told_of_refused hd fun rest => ?_⟩
    exact paired_of_high hh (literal_of_short h _)
  | @numbered m es text he _ ih =>
    constructor
    · cases hh : isHighSurrogate m with
      | true => exact ih.2 he hh
      | false =>
        cases hl : isLowSurrogate m with
        | true => exact told_of_refused he fun _ => paired_of_low hl _
        | false => exact told_cons (.numbered he hh hl) ih.1
    · intro n ds hd hh
      cases hl : isLowSurrogate m with
      | true =>
        have hpair := told_cons (.paired hd hh he hl) ih.1
        rwa [List.cons_append, List.cons_append, List.append_assoc, List.cons_append,
          List.cons_append] at hpair
      | false =>
        refine told_of_refused hd fun rest => ?_
        rw [List.cons_append, List.cons_append, List.append_assoc]
        exact paired_of_other hh he hl _

/-- A string spells a text, or is refused where a text is wanted. -/
theorem string_of_formed {cs : List Char} (h : StringFormed cs) :
    (∃ s, StringSpelled s cs) ∨ ∀ rest, string (cs ++ rest) = .error .malformed := by
  cases h with | @quoted text h =>
  rcases (told_of_formed h).1 with ⟨cs, hcs⟩ | hrefused
  · refine .inl ⟨.ofList cs, .quoted ?_⟩
    rwa [String.toList_ofList]
  · refine .inr fun rest => ?_
    have hrest := Reader.collect_of_gathers (hrefused true rest) Fault.truncated
    show (do return .ofList (← stringRest paired) : Read String) (text ++ rest) = _
    exact bind_error hrest

/-! ## Layouts -/

/-- The rest of a list, after its opening bracket or after an element, by the texts of its
elements. -/
inductive Listed : Bool → List (List Char) → List Char → Prop
  | close {first : Bool} {blanks : List Char} (h : Blanks blanks) :
      Listed first [] (blanks ++ [']'])
  | cons {first : Bool} {value : List Char} {vs : List (List Char)} {separator text : List Char}
      (hs : Separator first separator) (hr : Listed false vs text) :
      Listed first (value :: vs) (separator ++ (value ++ text))

/-- The rest of an object, after its opening brace or after a member, by the texts of its values and
by their keys, as far as `spelled` tells them apart. -/
inductive Named {κ : Type} (spelled : κ → List Char → Prop) :
    Bool → List (κ × List Char) → List Char → Prop
  | close {first : Bool} {blanks : List Char} (h : Blanks blanks) :
      Named spelled first [] (blanks ++ ['\x7d'])
  | cons {first : Bool} {key : κ} {vs : List (κ × List Char)}
      {separator name before after value text : List Char} (hs : Separator first separator)
      (hn : spelled key name) (hb : Blanks before) (ha : Blanks after)
      (hr : Named spelled false vs text) :
      Named spelled first ((key, value) :: vs)
        (separator ++ (name ++ (before ++ ':' :: (after ++ (value ++ text)))))

/-- A text that is one value and nothing else. -/
inductive WellFormed : List Char → Prop
  | null : WellFormed "null".toList
  | flag (b : Bool) : WellFormed (if b then "true" else "false").toList
  | number {n : NumberLiteral} {cs : List Char} (h : LiteralSpelled n cs) : WellFormed cs
  | text {cs : List Char} (h : StringFormed cs) : WellFormed cs
  | list {vs : List (List Char)} {cs : List Char} (h : Listed true vs cs)
      (hv : ∀ v ∈ vs, WellFormed v) : WellFormed ('[' :: cs)
  | object {vs : List (Unit × List Char)} {cs : List Char}
      (h : Named (fun _ => StringFormed) true vs cs) (hv : ∀ v ∈ vs, WellFormed v.2) :
      WellFormed ('\x7b' :: cs)

theorem ends_of_listed {vs : List (List Char)} {text : List Char} (h : Listed false vs text)
    (rest : List Char) : Ends (text ++ rest) := by
  cases h with
  | close h =>
    rw [List.append_assoc]
    exact ends_of_blanks h rfl rest
  | cons hs _ =>
    rw [List.append_assoc]
    exact ends_of_separator hs _

theorem ends_of_named {κ : Type} {spelled : κ → List Char → Prop} {vs : List (κ × List Char)}
    {text : List Char} (h : Named spelled false vs text) (rest : List Char) :
    Ends (text ++ rest) := by
  cases h with
  | close h =>
    rw [List.append_assoc]
    exact ends_of_blanks h rfl rest
  | cons hs _ _ _ _ =>
    rw [List.append_assoc]
    exact ends_of_separator hs _

/-- A value begins with no blank, and with no bracket that closes. -/
theorem exists_of_wellFormed {v : List Char} (h : WellFormed v) :
    ∃ c text, v = c :: text ∧ isBlank c = false ∧ c ≠ ']' := by
  cases h with
  | null => exact ⟨'n', _, rfl, rfl, by decide⟩
  | flag b => cases b <;> exact ⟨_, _, rfl, rfl, by decide⟩
  | number h =>
    obtain ⟨c, text, rfl, hs⟩ := exists_of_literal h
    exact ⟨c, text, rfl, not_isBlank_of_sign hs, ne_of_sign hs (by decide) rfl⟩
  | text h =>
    obtain @⟨text, _⟩ := h
    exact ⟨'"', text, rfl, rfl, by decide⟩
  | list _ _ => exact ⟨'[', _, rfl, rfl, by decide⟩
  | object _ _ => exact ⟨'\x7b', _, rfl, rfl, by decide⟩

/-- There is always a bracket left to close a list. -/
theorem length_pos_of_listed {first : Bool} {vs : List (List Char)} {cs : List Char}
    (h : Listed first vs cs) : 0 < cs.length := by
  induction h with
  | close _ => simp
  | cons _ _ ih =>
    simp only [List.length_append]
    omega

/-! ## Passing over values -/

/-- A value is passed over by as much fuel as it has characters, twice over. -/
def Passed (v : List Char) : Prop :=
  ∀ rest, Ends rest → ∀ n, 2 * v.length ≤ n → skipWithin n (v ++ rest) = .ok ((), rest)

/-- There is fuel for any text that is not empty. -/
theorem passed_of_succ {v : List Char} (h0 : v ≠ [])
    (h : ∀ rest, Ends rest → ∀ n, 2 * v.length ≤ n + 1 →
      skipWithin (n + 1) (v ++ rest) = .ok ((), rest)) : Passed v := by
  intro rest hr n hn
  have := List.length_pos_iff.mpr h0
  obtain ⟨n, rfl⟩ := Nat.exists_eq_succ_of_ne_zero (show n ≠ 0 by omega)
  exact h rest hr n hn

theorem passed_of_number {l : NumberLiteral} {cs : List Char} (h : LiteralSpelled l cs) :
    Passed cs := by
  have hskip : ∀ rest, Ends rest → skipNumber (cs ++ rest) = .ok ((), rest) := by
    intro rest hr
    unfold skipNumber
    rw [numberLiteral_of_spelled h hr]
  obtain ⟨c, text, rfl, hs⟩ := exists_of_literal h
  refine passed_of_succ (List.cons_ne_nil _ _) fun rest hr n _ => ?_
  unfold skipWithin
  rw [List.cons_append, bind_ok (peekToken_cons (not_isBlank_of_sign hs) _)]
  dsimp only
  rw [if_neg (ne_of_sign hs (by decide) rfl), if_neg (ne_of_sign hs (by decide) rfl),
    if_neg (ne_of_sign hs (by decide) rfl), if_neg (ne_of_sign hs (by decide) rfl), if_pos hs]
  exact hskip rest hr

theorem skipWithin_of_blanks {blanks : List Char} (h : Blanks blanks) (n : Nat) (cs : List Char) :
    skipWithin n (blanks ++ cs) = skipWithin n cs := by
  cases n with
  | zero => rfl
  | succ n =>
    unfold skipWithin
    exact Reader.bind_congr_of_eq (peekToken_of_blanks h cs) _

theorem skipElements_of_listed {first : Bool} {vs : List (List Char)} {cs : List Char}
    (h : Listed first vs cs) (hf : ∀ v ∈ vs, WellFormed v) (hv : ∀ v ∈ vs, Passed v)
    (rest : List Char) {n : Nat} (hn : 2 * cs.length ≤ n) :
    skipElements n first (cs ++ rest) = .ok ((), rest) := by
  induction h generalizing n with
  | @close first blanks h =>
    rw [List.length_append, List.length_singleton] at hn
    obtain ⟨n, rfl⟩ := Nat.exists_eq_succ_of_ne_zero (show n ≠ 0 by omega)
    unfold skipElements
    rw [bind_ok (hasItem_of_close rfl h first rest)]
    rfl
  | @cons first value vs separator text hs hr ih =>
    obtain ⟨hfirst, hrest⟩ := List.forall_mem_cons.mp hf
    obtain ⟨hpassed, hothers⟩ := List.forall_mem_cons.mp hv
    rw [List.length_append, List.length_append] at hn
    obtain ⟨c, more, hc, hb, hne⟩ := exists_of_wellFormed hfirst
    have hl : value.length = more.length + 1 := congrArg List.length hc
    have ht := length_pos_of_listed hr
    obtain ⟨n, rfl⟩ := Nat.exists_eq_succ_of_ne_zero (show n ≠ 0 by omega)
    have hitem : hasItem ']' first (separator ++ (value ++ (text ++ rest))) =
        .ok (true, value ++ (text ++ rest)) := by
      rw [hc]
      exact hasItem_of_separator hb hne (by decide) hs _
    unfold skipElements
    rw [List.append_assoc, List.append_assoc, bind_ok hitem, if_pos rfl,
      bind_ok (hpassed _ (ends_of_listed hr rest) n (by omega))]
    exact ih hrest hothers (by omega)

theorem skipMembers_of_named {first : Bool} {vs : List (Unit × List Char)} {cs : List Char}
    (h : Named (fun _ => StringFormed) first vs cs) (hv : ∀ v ∈ vs, Passed v.2)
    (rest : List Char) {n : Nat} (hn : 2 * cs.length ≤ n) :
    skipMembers n first (cs ++ rest) = .ok ((), rest) := by
  induction h generalizing n with
  | @close first blanks h =>
    rw [List.length_append, List.length_singleton] at hn
    obtain ⟨n, rfl⟩ := Nat.exists_eq_succ_of_ne_zero (show n ≠ 0 by omega)
    unfold skipMembers
    rw [bind_ok (hasItem_of_close rfl h first rest)]
    rfl
  | @cons first _ vs separator name before after value text hs hk hb ha hr ih =>
    obtain ⟨hpassed, hothers⟩ := List.forall_mem_cons.mp hv
    have hpassed : Passed value := hpassed
    simp only [List.length_append, List.length_cons] at hn
    obtain ⟨n, rfl⟩ := Nat.exists_eq_succ_of_ne_zero (show n ≠ 0 by omega)
    have hvalue : skipWithin n (after ++ (value ++ (text ++ rest))) = .ok ((), text ++ rest) := by
      rw [skipWithin_of_blanks ha]
      exact hpassed _ (ends_of_named hr rest) n (by omega)
    have hname := skipString_of_formed hk (before ++ ':' :: (after ++ (value ++ (text ++ rest))))
    obtain @⟨more, _⟩ := hk
    unfold skipMembers
    simp only [List.append_assoc, List.cons_append]
    rw [bind_ok (hasItem_of_separator rfl (by decide) (by decide) hs _), if_pos rfl,
      bind_ok (Reader.peek_apply _)]
    show (do
      skipString
      colon
      skipWithin n
      skipMembers n false : Read Unit) _ = _
    rw [← List.cons_append, bind_ok hname, bind_ok (colon_behind hb _), bind_ok hvalue]
    exact ih hothers (by omega)

/-- A value is passed over whole, whatever its strings and numbers stand for. -/
theorem passed_of_wellFormed {v : List Char} (h : WellFormed v) : Passed v := by
  induction h with
  | number h => exact passed_of_number h
  | null => exact passed_of_succ (by decide) fun _ _ _ _ => rfl
  | flag b =>
    cases b
    · exact passed_of_succ (by decide) fun _ _ _ _ => rfl
    · exact passed_of_succ (by decide) fun _ _ _ _ => rfl
  | text h =>
    have hskip := skipString_of_formed h
    obtain @⟨text, _⟩ := h
    exact passed_of_succ (List.cons_ne_nil _ _) fun rest _ _ _ => hskip rest
  | list h hf hv =>
    refine passed_of_succ (List.cons_ne_nil _ _) fun rest _ n hn => ?_
    rw [List.length_cons] at hn
    exact skipElements_of_listed h hf hv rest (by omega)
  | object h _ hv =>
    refine passed_of_succ (List.cons_ne_nil _ _) fun rest _ n hn => ?_
    rw [List.length_cons] at hn
    exact skipMembers_of_named h hv rest (by omega)

theorem skipValue_behind {blanks : List Char} (hb : Blanks blanks) {v : List Char}
    (h : WellFormed v) {rest : List Char} (hr : Ends rest) :
    skipValue (blanks ++ (v ++ rest)) = .ok ((), rest) := by
  show skipWithin _ (blanks ++ (v ++ rest)) = _
  rw [skipWithin_of_blanks hb]
  refine passed_of_wellFormed h rest hr _ ?_
  simp only [List.length_append]
  omega

/-! ## Values that spell data -/

/-- Which text spells which key may be forgotten. -/
theorem named_of_keys {first : Bool} {vs : List (String × List Char)} {cs : List Char}
    (h : Named StringSpelled first vs cs) :
    Named (fun _ => StringFormed) first (vs.map fun v => ((), v.2)) cs := by
  induction h with
  | close h => exact .close h
  | cons hs hn hb ha _ ih => exact .cons hs (stringFormed_of_spelled hn) hb ha ih

mutual

theorem wellFormed_of_spelled {t : Tree} {cs : List Char} (h : Spelled t cs) : WellFormed cs := by
  cases h with
  | null => exact .null
  | flag b => exact .flag b
  | number h => exact .number h
  | text h => exact .text (stringFormed_of_spelled h)
  | list h =>
    obtain ⟨_, hlisted, hf, _⟩ := listed_of_spelled h
    exact .list hlisted hf
  | object h =>
    obtain ⟨_, hnamed, hf, _⟩ := named_of_spelled h
    exact .object (named_of_keys hnamed) (List.forall_mem_map.mpr hf)

theorem listed_of_spelled {first : Bool} {ts : List Tree} {cs : List Char}
    (h : ElementsSpelled first ts cs) :
    ∃ vs, Listed first vs cs ∧ (∀ v ∈ vs, WellFormed v) ∧ List.Forall₂ Spelled ts vs := by
  cases h with
  | close h => exact ⟨[], .close h, List.forall_mem_nil _, .nil⟩
  | cons hs hv hr =>
    obtain ⟨vs, hlisted, hf, heach⟩ := listed_of_spelled hr
    exact ⟨_, .cons hs hlisted, List.forall_mem_cons.mpr ⟨wellFormed_of_spelled hv, hf⟩,
      .cons hv heach⟩

theorem named_of_spelled {first : Bool} {ms : List (String × Tree)} {cs : List Char}
    (h : MembersSpelled first ms cs) :
    ∃ vs, Named StringSpelled first vs cs ∧ (∀ v ∈ vs, WellFormed v.2) ∧
      List.Forall₂ (fun m v => m.1 = v.1 ∧ Spelled m.2 v.2) ms vs := by
  cases h with
  | close h => exact ⟨[], .close h, List.forall_mem_nil _, .nil⟩
  | cons hs hn hb ha hv hr =>
    obtain ⟨vs, hnamed, hf, heach⟩ := named_of_spelled hr
    exact ⟨_, .cons hs hn hb ha hnamed, List.forall_mem_cons.mpr ⟨wellFormed_of_spelled hv, hf⟩,
      .cons ⟨rfl, hv⟩ heach⟩

end

end AppVersions.Json
