-- All ways to lay out a TOML document that only assigns strings and lists of strings at its root:
-- any comments and lines that say nothing may stand between the assignments. It is read as the table
-- that it assigns.
import AppVersions.Proofs.Toml.Names
import AppVersions.Proofs.Toml.Values

namespace AppVersions.Toml

open AppVersions.Json (Tree)
open AppVersions.Reader (Collects StopsAt bind_ok stopsAt_nil)

/-! ## Grammar -/

/-- The lines of a document, with what they assign. Only the last one may go without a line end. -/
inductive LinesSpelled : List (String × Tree) → List Char → Prop
  | done {t : List Char} (h : Trailing t) : LinesSpelled [] t
  | idle {ms : List (String × Tree)} {t e text : List Char} (ht : Trailing t) (he : LineEnd e)
      (hr : LinesSpelled ms text) : LinesSpelled ms (t ++ (e ++ text))
  | assign {k : String} {v : Tree} {ms : List (String × Tree)} {bs cs t rest text : List Char}
      (hb : Blanks bs) (ha : AssignmentSpelled k v cs) (ht : Trailing t) (ho : Over rest text)
      (hr : LinesSpelled ms text) : LinesSpelled ((k, v) :: ms) (bs ++ (cs ++ (t ++ rest)))

/-- A whole text; a byte order mark may stand in front. -/
inductive DocumentSpelled : List (String × Tree) → String → Prop
  | unmarked {ms : List (String × Tree)} {s : String} {text : List Char}
      (h : LinesSpelled ms text) (hs : s.toList = text) : DocumentSpelled ms s
  | marked {ms : List (String × Tree)} {s : String} {text : List Char} (h : LinesSpelled ms text)
      (hs : s.toList = '\uFEFF' :: text) : DocumentSpelled ms s

/-! ## Lines -/

theorem line_of_blanks {bs : List Char} (h : Blanks bs) : line bs = .ok (none, []) := by
  have hskip := skipBlanks_of_blanks h (stopsAt_nil _)
  rw [List.append_nil] at hskip
  unfold line
  rw [bind_ok hskip]
  rfl

/-- A line says nothing that starts like the rest of one. -/
theorem line_of_rest {bs more rest : List Char} {c : Char} (hb : Blanks bs)
    (hc : c = '#' ∨ c = '\n' ∨ c = '\r') (hr : lineRest (c :: more) = .ok ((), rest)) :
    line (bs ++ c :: more) = .ok (some none, rest) := by
  have hblank : isBlank c = false := by
    rcases hc with rfl | rfl | rfl <;> rfl
  unfold line
  rw [bind_ok (skipBlanks_before hb hblank more), bind_ok (Reader.peek_apply _)]
  dsimp only [List.head?_cons]
  rw [if_pos hc, bind_ok hr]
  rfl

theorem line_of_comment {bs text cs rest : List Char} (hb : Blanks bs)
    (hc : ∀ c ∈ text, isVisible c = true) (ho : Over cs rest) :
    line (bs ++ '#' :: text ++ cs) = .ok (some none, rest) := by
  rw [List.append_assoc]
  exact line_of_rest hb (.inl rfl)
    (lineRest_of_trailing (.comment (List.forall_mem_nil _) hc) ho)

theorem line_of_idle {t e : List Char} (ht : Trailing t) (he : LineEnd e) (rest : List Char) :
    line (t ++ (e ++ rest)) = .ok (some none, rest) := by
  have ho := Over.next he rest
  cases ht with
  | blanks h =>
    have hr := lineRest_of_trailing (.blanks (List.forall_mem_nil _)) ho
    cases he with
    | feed => exact line_of_rest h (.inr (.inl rfl)) hr
    | pair => exact line_of_rest h (.inr (.inr rfl)) hr
  | comment h hc => exact line_of_comment h hc ho

/-- What an entry of the root table is assigned by. -/
def Statement.ofEntry : Key × Node → Statement
  | (k, n) => .assign [] k n

theorem exists_of_assignmentSpelled {k : String} {v : Tree} {cs : List Char}
    (h : AssignmentSpelled k v cs) : ∃ c more, cs = c :: more ∧ startsKey c = true := by
  cases h with | pair hk hb ha hv =>
  obtain ⟨c, more, rfl, hc⟩ := exists_of_keySpelled hk
  exact ⟨c, _, rfl, hc⟩

theorem line_of_assignment {k : String} {v : Tree} {bs cs t rest text : List Char} (hb : Blanks bs)
    (ha : AssignmentSpelled k v cs) (ht : Trailing t) (ho : Over rest text) :
    ∃ span n, line (bs ++ (cs ++ (t ++ rest))) =
      .ok (some (some (Statement.ofEntry (⟨k, span⟩, n))), text) ∧ Denotes n v := by
  have hquote : StopsAt (· == '"') (t ++ rest) :=
    ht.idle.stopsAt rfl (ho.stopsAt rfl rfl)
  obtain ⟨span, n, hn, hd⟩ := assignment_of_spelled ha hquote
  obtain ⟨c, more, rfl, hc⟩ := exists_of_assignmentSpelled ha
  have hplain : ¬(c = '#' ∨ c = '\n' ∨ c = '\r') := by
    rintro (rfl | rfl | rfl) <;> cases hc
  have htable : c ≠ '[' := ne_of_startsKey hc rfl
  refine ⟨span, n, ?_, hd⟩
  unfold line
  rw [List.cons_append] at hn ⊢
  rw [bind_ok (skipBlanks_before hb (not_isBlank_of_startsKey hc) _),
    bind_ok (Reader.peek_apply _)]
  dsimp only [List.head?_cons]
  rw [if_neg hplain, if_neg htable, bind_ok hn, bind_ok (lineRest_of_trailing ht ho)]
  rfl

/-! ## Statements -/

/-- The statements of a document assign the entries of a table that holds the same data. -/
theorem collects_of_lines {ms : List (String × Tree)} {cs : List Char} (h : LinesSpelled ms cs)
    (first : Bool) : ∃ ss es, Collects (fun _ => line) first cs ss [] ∧
      ss.filterMap id = es.map Statement.ofEntry ∧ DenotesEach es ms := by
  have hend : Collects (fun _ => line) false [] [] [] := .done rfl
  induction h generalizing first with
  | done h =>
    cases h with
    | blanks h => exact ⟨[], [], .done (line_of_blanks h), rfl, .nil⟩
    | comment h hc =>
      have hl := line_of_comment h hc .atEnd
      rw [List.append_nil] at hl
      exact ⟨[none], [], .more hl (List.length_pos_of_ne_nil (by simp)) hend, rfl, .nil⟩
  | @idle ms t e text ht he _ ih =>
    obtain ⟨ss, es, hss, hs, hd⟩ := ih false
    have hpos := he.length_pos
    refine ⟨none :: ss, es, .more (line_of_idle ht he text) ?_ hss, hs, hd⟩
    simp only [List.length_append]
    omega
  | @assign k v ms bs cs t rest text hb ha ht ho _ ih =>
    obtain ⟨ss, es, hss, hs, hd⟩ := ih false
    obtain ⟨span, n, hl, hn⟩ := line_of_assignment hb ha ht ho
    obtain ⟨c, more, rfl, _⟩ := exists_of_assignmentSpelled ha
    have hle := ho.length_le
    refine ⟨_ :: ss, (⟨k, span⟩, n) :: es, .more hl ?_ hss, ?_, .cons hn hd⟩
    · simp only [List.length_append, List.length_cons]
      omega
    · rw [List.filterMap_cons, hs]
      rfl

/-- No line starts with a byte order mark. -/
theorem stopsAt_mark_of_lines {ms : List (String × Tree)} {cs : List Char}
    (h : LinesSpelled ms cs) : StopsAt (· == '\uFEFF') cs := by
  induction h with
  | done h =>
    have hs := h.idle.stopsAt rfl (stopsAt_nil (· == '\uFEFF'))
    rwa [List.append_nil] at hs
  | idle ht he _ ih =>
    exact ht.idle.stopsAt rfl (he.idle.stopsAt rfl ih)
  | assign hb ha _ _ _ _ =>
    obtain ⟨c, more, rfl, hc⟩ := exists_of_assignmentSpelled ha
    refine hb.idle.stopsAt rfl ?_
    rintro _ ⟨⟩
    exact beq_eq_false_iff_ne.mpr (ne_of_startsKey hc rfl)

theorem statements_of_spelled {ms : List (String × Tree)} {s : String}
    (h : DocumentSpelled ms s) :
    ∃ es, statements s.toList = .ok (es.map Statement.ofEntry, []) ∧ DenotesEach es ms := by
  have hlines : ∀ {cs}, LinesSpelled ms cs → ∃ es, (do
      let lines ← Reader.collect () fun _ => line
      return lines.filterMap id : Read (List Statement)) cs =
        .ok (es.map Statement.ofEntry, []) ∧ DenotesEach es ms := by
    intro cs h
    obtain ⟨ss, es, hss, hs, hd⟩ := collects_of_lines h true
    refine ⟨es, ?_, hd⟩
    rw [bind_ok (Reader.collect_of_collects hss ()), hs]
    rfl
  cases h with
  | @unmarked text h hs =>
    obtain ⟨es, hes, hd⟩ := hlines h
    have hmark : text.head? ≠ some '\uFEFF' := fun hm => by
      cases stopsAt_mark_of_lines h _ hm
    refine ⟨es, ?_, hd⟩
    rw [hs]
    unfold statements
    rw [bind_ok (Reader.peek_apply _), if_neg hmark]
    exact hes
  | marked h hs =>
    obtain ⟨es, hes, hd⟩ := hlines h
    refine ⟨es, ?_, hd⟩
    rw [hs]
    exact hes

/-! ## Tables -/

theorem names_of_denotesEach {es : Entries} {ms : List (String × Tree)} (h : DenotesEach es ms) :
    es.names = ms.map Prod.fst := by
  induction es generalizing ms with
  | nil =>
    cases h
    rfl
  | cons e es ih =>
    cases h with | cons _ hr =>
    exact congrArg (_ :: ·) (ih hr)

theorem Entries.get_eq_none {es : Entries} {name : String} (h : name ∉ es.names) :
    es.get? name = none := by
  unfold get?
  rw [Option.map_eq_none_iff, List.find?_eq_none]
  rintro ⟨k, n⟩ he hk
  have hk : k.name = name := eq_of_beq hk
  exact h (List.mem_map.mpr ⟨(k, n), he, hk⟩)

/-- An entry with a new name is added at the end. -/
theorem Draft.add_ofEntry {es : Entries} {e : Key × Node} (h : e.1.name ∉ es.names) :
    Draft.add ⟨es, none⟩ (.ofEntry e) = some ⟨es ++ [e], none⟩ := by
  have hadd : es.add? e.1 e.2 = some (es ++ [e]) := by
    unfold Entries.add?
    rw [Entries.get_eq_none h]
    rfl
  show (do return (⟨← es.add? e.1 e.2, none⟩ : Draft) : Option Draft) = _
  rw [hadd]
  rfl

theorem build_of_entries {es : Entries} (h : es.Distinct) :
    build (es.map Statement.ofEntry) = some es := by
  have hfold : ∀ before : Entries, (before ++ es).Distinct →
      (es.map Statement.ofEntry).foldlM Draft.add ⟨before, none⟩ = some ⟨before ++ es, none⟩ := by
    clear h
    induction es with
    | nil =>
      intro before _
      rw [List.append_nil]
      rfl
    | cons e es ih =>
      intro before hd
      have hnew : e.1.name ∉ before.names := by
        intro hm
        unfold Entries.Distinct Entries.names at hd
        rw [List.map_append] at hd
        exact (List.nodup_append.mp hd).2.2 _ hm _ List.mem_cons_self rfl
      rw [List.append_cons] at hd ⊢
      rw [List.map_cons, List.foldlM_cons, Draft.add_ofEntry hnew]
      exact ih (before ++ [e]) hd
  unfold build
  rw [hfold [] h]
  rfl

/-- A document that assigns each name once is read as the table that it assigns. -/
theorem parse_of_spelled {ms : List (String × Tree)} {s : String} (h : DocumentSpelled ms s)
    (hd : (ms.map Prod.fst).Nodup) : ∃ es, parse s = some es ∧ DenotesEach es ms := by
  obtain ⟨es, hs, he⟩ := statements_of_spelled h
  have hdistinct : es.Distinct := by
    unfold Entries.Distinct
    rwa [names_of_denotesEach he]
  refine ⟨es, ?_, he⟩
  unfold parse
  rw [hs]
  exact build_of_entries hdistinct

/-! ## Spelling -/

/-- A value that can be written: a string or a list of strings. -/
inductive Writable : Tree → Prop
  | text (s : String) : Writable (.text s)
  | texts (ss : List String) : Writable (.list (ss.map .text))

theorem exists_elementsSpelled (ss : List String) (first : Bool) :
    ∃ cs, ElementsSpelled first ss cs := by
  have hnone : Filler [] := .blanks (List.forall_mem_nil _)
  induction ss generalizing first with
  | nil => exact ⟨_, .close hnone⟩
  | cons s ss ih =>
    obtain ⟨text, hr⟩ := ih false
    obtain ⟨element, he⟩ := exists_stringSpelled s
    cases first with
    | true => exact ⟨_, .cons (.first hnone) he hr⟩
    | false => exact ⟨_, .cons (.next hnone hnone) he hr⟩

theorem exists_valueSpelled {v : Tree} (h : Writable v) : ∃ cs, ValueSpelled v cs := by
  cases h with
  | text s =>
    obtain ⟨cs, hs⟩ := exists_stringSpelled s
    exact ⟨cs, .text hs⟩
  | texts ss =>
    obtain ⟨cs, hs⟩ := exists_elementsSpelled ss true
    exact ⟨_, .texts hs⟩

/-- Every table of such values has a document. -/
theorem exists_documentSpelled {ms : List (String × Tree)} (h : ∀ m ∈ ms, Writable m.2) :
    ∃ s, DocumentSpelled ms s := by
  have hnone : Blanks [] := List.forall_mem_nil _
  have hlines : ∃ cs, LinesSpelled ms cs := by
    induction ms with
    | nil => exact ⟨[], .done (.blanks hnone)⟩
    | cons m ms ih =>
      obtain ⟨hm, h⟩ := List.forall_mem_cons.mp h
      obtain ⟨text, hr⟩ := ih h
      obtain ⟨name, hn⟩ := exists_stringSpelled m.1
      obtain ⟨value, hv⟩ := exists_valueSpelled hm
      exact ⟨_, .assign hnone (.pair (.quoted hn) hnone hnone hv) (.blanks hnone)
        (.next .feed text) hr⟩
  obtain ⟨cs, hcs⟩ := hlines
  exact ⟨_, .unmarked hcs String.toList_ofList⟩

end AppVersions.Toml
