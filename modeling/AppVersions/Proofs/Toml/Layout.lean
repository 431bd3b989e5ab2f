-- The laws of layout in TOML: blanks, comments and line ends between the parts of a document are
-- passed over, and what stands there never runs into the part before it.
import AppVersions.Proofs.Readers
import AppVersions.Toml.Text

namespace AppVersions.Toml

open AppVersions.Reader (Runs StopsAt bind_ok stopsAt_cons)

/-! ## Grammar -/

/-- Blanks, as they may stand around every part of a line. -/
def Blanks (cs : List Char) : Prop := ∀ c ∈ cs, isBlank c = true

/-- What may follow on a line after what it says: blanks, and then perhaps a comment. -/
inductive Trailing : List Char → Prop
  | blanks {bs : List Char} (h : Blanks bs) : Trailing bs
  | comment {bs text : List Char} (h : Blanks bs) (hc : ∀ c ∈ text, isVisible c = true) :
      Trailing (bs ++ '#' :: text)

inductive LineEnd : List Char → Prop
  | feed : LineEnd ['\n']
  | pair : LineEnd ['\r', '\n']

/-- A line is over in front of `cs`, and `rest` is all that follows it. -/
inductive Over : List Char → List Char → Prop
  | atEnd : Over [] []
  | next {e : List Char} (h : LineEnd e) (rest : List Char) : Over (e ++ rest) rest

/-- What may stand between the parts of a list: lines that say nothing, and blanks. -/
inductive Filler : List Char → Prop
  | blanks {bs : List Char} (h : Blanks bs) : Filler bs
  | line {t e more : List Char} (ht : Trailing t) (he : LineEnd e) (hr : Filler more) :
      Filler (t ++ (e ++ more))

/-! ## How layout starts -/

/-- The characters that layout may start with. -/
def idleChars : List Char := [' ', '\t', '#', '\n', '\r']

/-- Nothing that is no layout stands in front. -/
def Idle (cs : List Char) : Prop := ∀ c ∈ cs.head?, c ∈ idleChars

theorem mem_idleChars_of_isBlank {c : Char} (h : isBlank c = true) : c ∈ idleChars := by
  simp only [isBlank, Bool.or_eq_true, beq_iff_eq] at h
  rcases h with rfl | rfl <;> decide

theorem not_isBlank_of_notMem {c : Char} (h : c ∉ idleChars) : isBlank c = false :=
  eq_false_of_ne_true fun hb => h (mem_idleChars_of_isBlank hb)

theorem Idle.append {cs ds : List Char} (h : Idle cs) (hd : Idle ds) : Idle (cs ++ ds) := by
  cases cs with
  | nil => exact hd
  | cons c cs => exact h

theorem Blanks.idle {bs : List Char} (h : Blanks bs) : Idle bs :=
  fun c hc => mem_idleChars_of_isBlank (h c (List.mem_of_mem_head? hc))

theorem Trailing.idle {t : List Char} (h : Trailing t) : Idle t := by
  cases h with
  | blanks h => exact h.idle
  | comment h _ =>
    refine h.idle.append ?_
    rintro _ ⟨⟩
    decide

/-- Only a line end stands where a line is over. -/
theorem Over.head {cs rest : List Char} (h : Over cs rest) :
    ∀ c ∈ cs.head?, c = '\n' ∨ c = '\r' := by
  cases h with
  | atEnd => exact nofun
  | next h rest =>
    cases h with
    | feed =>
      rintro _ ⟨⟩
      exact .inl rfl
    | pair =>
      rintro _ ⟨⟩
      exact .inr rfl

theorem Over.idle {cs rest : List Char} (h : Over cs rest) : Idle cs := by
  intro c hc
  rcases h.head c hc with rfl | rfl <;> decide

theorem LineEnd.idle {e : List Char} (h : LineEnd e) : Idle e := by
  have ho := (Over.next h []).idle
  rwa [List.append_nil] at ho

theorem LineEnd.length_pos {e : List Char} (h : LineEnd e) : 0 < e.length := by
  cases h <;> decide

theorem Over.length_le {cs rest : List Char} (h : Over cs rest) : rest.length ≤ cs.length := by
  cases h with
  | atEnd => exact Nat.le_refl _
  | next _ _ =>
    rw [List.length_append]
    exact Nat.le_add_left _ _

theorem Filler.idle {f : List Char} (h : Filler f) : Idle f := by
  induction h with
  | blanks h => exact h.idle
  | line ht he _ ih => exact ht.idle.append (he.idle.append ih)

/-- What layout cannot start with does not go on behind layout. -/
theorem Idle.stopsAt {p : Char → Bool} {cs rest : List Char} (h : Idle cs)
    (hp : idleChars.any p = false) (hr : StopsAt p rest) : StopsAt p (cs ++ rest) := by
  cases cs with
  | nil => exact hr
  | cons c cs =>
    have hc : p c = false := eq_false_of_ne_true (List.any_eq_false.mp hp c (h c rfl))
    exact stopsAt_cons hc _

theorem Over.stopsAt {p : Char → Bool} {cs rest : List Char} (h : Over cs rest)
    (hn : p '\n' = false) (hr : p '\r' = false) : StopsAt p cs := by
  intro c hc
  rcases h.head c hc with rfl | rfl
  · exact hn
  · exact hr

/-! ## The rest of a line -/

theorem skipBlanks_of_blanks {bs rest : List Char} (h : Blanks bs) (hr : StopsAt isBlank rest) :
    skipBlanks (bs ++ rest) = .ok ((), rest) :=
  congrArg (fun left => Except.ok ((), left)) (Reader.dropWhile_of_run h hr)

theorem skipBlanks_of_stop {c : Char} (hc : isBlank c = false) (rest : List Char) :
    skipBlanks (c :: rest) = .ok ((), c :: rest) :=
  Reader.skipWhile_of_stop (stopsAt_cons hc rest)

theorem skipBlanks_before {bs : List Char} (h : Blanks bs) {c : Char} (hc : isBlank c = false)
    (rest : List Char) : skipBlanks (bs ++ c :: rest) = .ok ((), c :: rest) :=
  skipBlanks_of_blanks h (stopsAt_cons hc rest)

theorem skipComment_of_visible {text rest : List Char} (h : ∀ c ∈ text, isVisible c = true)
    (hr : StopsAt isVisible rest) : skipComment ('#' :: (text ++ rest)) = .ok ((), rest) :=
  congrArg (fun left => Except.ok ((), left))
    (@Reader.dropWhile_of_run isVisible ('#' :: text) rest (List.forall_mem_cons.mpr ⟨rfl, h⟩) hr)

theorem skipComment_of_over {cs rest : List Char} (h : Over cs rest) :
    skipComment cs = .ok ((), cs) := by
  have hne : cs.head? ≠ some '#' := by
    intro hc
    rcases h.head '#' hc with he | he <;> cases he
  exact congrFun (if_neg hne) cs

theorem lineEnd_of_spelled {e : List Char} (h : LineEnd e) (rest : List Char) :
    lineEnd (e ++ rest) = .ok ((), rest) := by
  cases h <;> rfl

/-- Blanks and a comment are passed over with the end of their line. -/
theorem lineRest_of_trailing {t cs rest : List Char} (ht : Trailing t) (ho : Over cs rest) :
    lineRest (t ++ cs) = .ok ((), rest) := by
  have hended : (do
      if (← get).isEmpty then return
      lineEnd : Read Unit) cs = .ok ((), rest) := by
    cases ho with
    | atEnd => rfl
    | next h rest => cases h <;> rfl
  unfold lineRest
  cases ht with
  | blanks h =>
    rw [bind_ok (skipBlanks_of_blanks h (ho.stopsAt rfl rfl)), bind_ok (skipComment_of_over ho)]
    exact hended
  | comment h hc =>
    rw [List.append_assoc, List.cons_append, bind_ok (skipBlanks_before h rfl _),
      bind_ok (skipComment_of_visible hc (ho.stopsAt rfl rfl))]
    exact hended

/-! ## Lines inside lists -/

theorem idleRest_of_line {t e : List Char} (ht : Trailing t) (he : LineEnd e) (rest : List Char) :
    idleRest (t ++ (e ++ rest)) = .ok (some (), rest) := by
  have ho := Over.next he rest
  unfold idleRest
  cases ht with
  | blanks h =>
    rw [bind_ok (skipBlanks_of_blanks h (ho.stopsAt rfl rfl))]
    cases he <;> rfl
  | comment h hc =>
    rw [List.append_assoc, List.cons_append, bind_ok (skipBlanks_before h rfl _),
      bind_ok (Reader.peek_apply _)]
    show (do
      skipComment
      lineEnd
      return some () : Read (Option Unit)) _ = _
    rw [bind_ok (skipComment_of_visible hc (ho.stopsAt rfl rfl)),
      bind_ok (lineEnd_of_spelled he rest)]
    rfl

theorem idleRest_of_blanks {bs : List Char} (h : Blanks bs) {c : Char} (hc : c ∉ idleChars)
    (rest : List Char) : idleRest (bs ++ c :: rest) = .ok (none, c :: rest) := by
  unfold idleRest
  rw [bind_ok (skipBlanks_before h (not_isBlank_of_notMem hc) rest), bind_ok (Reader.peek_apply _)]
  refine congrFun (?_ : _ = (pure none : Read (Option Unit))) (c :: rest)
  dsimp only [List.head?_cons]
  split
  · rename_i hh
    exact absurd (Option.some.inj hh ▸ by decide) hc
  · rename_i hh
    exact absurd (Option.some.inj hh ▸ by decide) hc
  · rename_i hh
    exact absurd (Option.some.inj hh ▸ by decide) hc
  · rfl

/-- Filler is passed over up to what is none. -/
theorem skipFiller_of_filler {f : List Char} (h : Filler f) {c : Char} (hc : c ∉ idleChars)
    (rest : List Char) : skipFiller (f ++ c :: rest) = .ok ((), c :: rest) := by
  have hruns : Runs (fun _ => idleRest) () (f ++ c :: rest) (.ok ()) (c :: rest) := by
    induction h with
    | blanks h => exact .done (idleRest_of_blanks h hc rest)
    | @line t e more ht he _ ih =>
      rw [List.append_assoc, List.append_assoc]
      refine .more (idleRest_of_line ht he _) ?_ ih
      have hpos := he.length_pos
      simp only [List.length_append]
      omega
  exact Reader.repeatStep_of_runs hruns ()

end AppVersions.Toml
