-- The laws of paths: what is two steps above a path, and that putting the steps back gives a path
-- of the same steps.
import AppVersions.Path
import AppVersions.Proofs.Cuts
import Mathlib.Data.List.Flatten
import Mathlib.Tactic.SplitIfs
import Mathlib.Tactic.Tauto

namespace AppVersions.Path

open AppVersions.Text (dropEndWhile)

/-! ## Segments -/

theorem toList_text (p : Path) : p.text.toList = ['/'].intercalate p.segments :=
  (List.intercalate_splitOn '/').symm

theorem slash_notMem_splitOn (cs : List Char) : ∀ s ∈ cs.splitOn '/', '/' ∉ s :=
  fun _ => Text.notMem_of_mem_splitOn

/-- The path with some segments, none of which holds a slash. -/
theorem segments_ofList {ss : List (List Char)} (hs : ∀ s ∈ ss, '/' ∉ s) (hn : ss ≠ []) :
    segments ⟨.ofList (['/'].intercalate ss)⟩ = ss := by
  unfold segments
  rw [String.toList_ofList]
  exact List.splitOn_intercalate '/' hs hn

/-- A path that does not end in a slash goes on behind one. -/
theorem segments_join {p q : Path} (hp : p.segments.getLast? ≠ some [])
    (hq : q.isAbsolute = false) :
    (p.join q).segments = p.segments ++ q.segments := by
  have hs : ¬(p.text.toList = [] ∨ p.text.toList.getLast? = some '/') := by
    rintro (h | h)
    · apply hp
      rw [segments, h]
      rfl
    · apply hp
      obtain ⟨cs, hcs⟩ := List.getLast?_eq_some_iff.mp h
      rw [segments, hcs, List.splitOn_append_cons_self]
      simp
  unfold join
  rw [if_neg (by simp [hq]), if_neg hs]
  unfold segments
  rw [String.toList_append, String.toList_append, List.append_assoc]
  exact List.splitOn_append_cons_self _ _

/-! ## Steps up -/

theorem dropEndWhile_of_not {α : Type} {p : α → Bool} {xs ys : List α} {x : α} (hx : p x = false)
    (hy : ∀ y ∈ ys, p y = true) : dropEndWhile p (xs ++ x :: ys) = xs ++ [x] := by
  unfold dropEndWhile
  rw [List.reverse_append, List.reverse_cons, List.append_assoc,
    List.dropWhile_append_of_pos (by simpa using hy), List.singleton_append,
    List.dropWhile_cons_of_neg (by simp [hx]), List.reverse_cons, List.reverse_reverse]

theorem dropEndWhile_of_all {α : Type} {p : α → Bool} {xs : List α} (h : ∀ x ∈ xs, p x = true) :
    dropEndWhile p xs = [] := by
  unfold dropEndWhile
  rw [← List.append_nil xs.reverse, List.dropWhile_append_of_pos (by simpa using h)]
  rfl

theorem getLast_dropEndWhile {xs : List (List Char)} {s : List Char} (h : isIdle s = true) :
    (dropEndWhile isIdle xs).getLast? ≠ some s := by
  unfold dropEndWhile
  rw [List.getLast?_reverse]
  intro hs
  have hn := List.head?_dropWhile_not isIdle xs.reverse
  rw [hs] at hn
  cases hn.symm.trans h

/-- What is above some steps behind the first segment. -/
def above (first : List Char) (rest : List (List Char)) : Path :=
  if first = [] ∧ rest = [] then ⟨"/"⟩ else ⟨.ofList (['/'].intercalate (first :: rest))⟩

/-- One step up from a path leaves what stands before its last name. -/
theorem parent_eq_above {p : Path} {first s : List Char} {xs ys : List (List Char)}
    (h : p.segments = first :: (xs ++ s :: ys)) (hs : isIdle s = false)
    (hy : ∀ y ∈ ys, isIdle y = true) :
    p.parent? = some (above first (dropEndWhile isIdle xs)) := by
  have hb : ∃ b bs, xs ++ [s] = b :: bs := by
    cases xs with
    | nil => exact ⟨s, [], rfl⟩
    | cons x xs => exact ⟨x, xs ++ [s], rfl⟩
  obtain ⟨b, bs, hb⟩ := hb
  have hd : (b :: bs).dropLast = xs := by rw [← hb, List.dropLast_concat]
  unfold parent? above
  rw [h]
  dsimp only
  rw [dropEndWhile_of_not hs hy, hb]
  dsimp only
  rw [hd]
  split <;> rfl

/-- One step up from a single name there is nothing. -/
theorem parent_of_single {p : Path} {s : List Char} (h : p.segments = [s]) (hs : s ≠ []) :
    p.parent? = some ⟨""⟩ := by
  unfold parent?
  rw [h]
  dsimp only
  rw [dropEndWhile_of_all (by simp)]
  dsimp only
  rw [if_neg hs]

theorem segments_above {first : List Char} {rest : List (List Char)}
    (hs : ∀ s ∈ first :: rest, '/' ∉ s) (hn : ¬(first = [] ∧ rest = [])) :
    (above first rest).segments = first :: rest := by
  unfold above
  rw [if_neg hn]
  exact segments_ofList hs (List.cons_ne_nil _ _)

/-! ## Idle segments -/

/-- The second list is the first one without some of its idle segments. -/
inductive Thinned : List (List Char) → List (List Char) → Prop
  | nil : Thinned [] []
  | keep (s : List Char) {xs ys : List (List Char)} (h : Thinned xs ys) :
      Thinned (s :: xs) (s :: ys)
  | drop {s : List Char} {xs ys : List (List Char)} (hs : isIdle s = true) (h : Thinned xs ys) :
      Thinned (s :: xs) ys

namespace Thinned

theorem refl : ∀ xs, Thinned xs xs
  | [] => .nil
  | s :: xs => .keep s (refl xs)

theorem append {xs ys xs' ys' : List (List Char)} (h : Thinned xs ys) (h' : Thinned xs' ys') :
    Thinned (xs ++ xs') (ys ++ ys') := by
  induction h with
  | nil => exact h'
  | keep s _ ih => exact .keep s ih
  | drop hs _ ih => exact .drop hs ih

theorem of_idle {xs : List (List Char)} (h : ∀ x ∈ xs, isIdle x = true) : Thinned xs [] := by
  induction xs with
  | nil => exact .nil
  | cons x xs ih =>
    exact .drop (h x List.mem_cons_self) (ih fun y hy => h y (List.mem_cons_of_mem _ hy))

theorem dropEnd (xs : List (List Char)) : Thinned xs (dropEndWhile isIdle xs) := by
  have h := congrArg List.reverse (xs.reverse.takeWhile_append_dropWhile (p := isIdle))
  rw [List.reverse_append, List.reverse_reverse] at h
  have ht : Thinned (xs.reverse.takeWhile isIdle).reverse [] := by
    apply of_idle
    intro x hx
    exact List.all_eq_true.mp List.all_takeWhile x (List.mem_reverse.mp hx)
  have ha := (refl (dropEndWhile isIdle xs)).append ht
  rw [List.append_nil] at ha
  unfold dropEndWhile at ha ⊢
  rwa [h] at ha

theorem sublist {xs ys : List (List Char)} (h : Thinned xs ys) : ys.Sublist xs := by
  induction h with
  | nil => exact List.Sublist.slnil
  | keep s _ ih => exact ih.cons_cons s
  | drop _ _ ih => exact ih.cons _

end Thinned

theorem intercalate_cons (first : List Char) (xs : List (List Char)) :
    ['/'].intercalate (first :: xs) = first ++ xs.flatMap ('/' :: ·) := by
  induction xs generalizing first with
  | nil => simp
  | cons x xs ih =>
    rw [List.intercalate_cons_cons, ih, List.append_assoc]
    rfl

/-- Fewer segments behind the first make a text of fewer characters. -/
theorem text_sublist {p q : Path} {first : List Char} {xs ys : List (List Char)}
    (hp : p.segments = first :: xs) (hq : q.segments = first :: ys) (h : ys.Sublist xs) :
    q.text.toList.Sublist p.text.toList := by
  rw [toList_text, toList_text, hp, hq, intercalate_cons, intercalate_cons]
  exact (h.flatMap _).append_left _

/-! ## Texts -/

theorem isAbsolute_eq {p : Path} {first : List Char} {xs : List (List Char)}
    (h : p.segments = first :: xs) (hn : p.text ≠ "") : p.isAbsolute = decide (first = []) := by
  unfold segments at h
  unfold isAbsolute
  cases hc : p.text.toList with
  | nil => exact absurd (String.toList_inj.mp hc) hn
  | cons c cs =>
    rw [hc, List.splitOn_cons_eq_if_modifyHead] at h
    by_cases hs : c = '/'
    · rw [if_pos (by simpa using hs)] at h
      rw [← (List.cons.inj h).1, hs]
      rfl
    · rw [if_neg (by simpa using hs)] at h
      obtain ⟨first', rest, hr⟩ := List.exists_cons_of_ne_nil (List.splitOn_ne_nil '/' cs)
      rw [hr] at h
      rw [← (List.cons.inj h).1]
      simpa using hs

theorem utf8ByteSize_le_of_sublist {xs ys : List Char} (h : xs.Sublist ys) :
    (String.ofList xs).utf8ByteSize ≤ (String.ofList ys).utf8ByteSize := by
  induction h with
  | slnil => exact Nat.le_refl _
  | cons c _ ih =>
    rw [String.ofList_cons, String.utf8ByteSize_append]
    omega
  | cons_cons c _ ih =>
    rw [String.ofList_cons, String.ofList_cons, String.utf8ByteSize_append,
      String.utf8ByteSize_append]
    omega

/-! ## Last names -/

theorem eq_of_ofSegment {s name : List Char} (hn : name ≠ ['.', '.'])
    (h : Part.ofSegment s = .name name) : s = name := by
  unfold Part.ofSegment at h
  split at h
  · cases h
  · cases h
    rfl

/-- Before the last segment that is not idle stands all else that is not. -/
theorem filter_eq_concat {p : List Char → Bool} {xs ys : List (List Char)} {s : List Char}
    (h : xs.filter (!p ·) = ys ++ [s]) :
    ∃ before after, xs = before ++ s :: after ∧ before.filter (!p ·) = ys ∧ p s = false ∧
      ∀ x ∈ after, p x = true := by
  obtain ⟨l, r, rfl, hl, hr⟩ := List.filter_eq_append_iff.mp h
  obtain ⟨m, after, rfl, hm, hs, ha⟩ := List.filter_eq_cons_iff.mp hr
  refine ⟨l ++ m, after, (List.append_assoc _ _ _).symm, ?_, by simpa using hs, ?_⟩
  · rw [List.filter_append, hl, List.filter_eq_nil_iff.mpr hm, List.append_nil]
  · intro x hx
    simpa using List.filter_eq_nil_iff.mp ha x hx

/-- A path of these last two steps has their names last but for idle segments; the first of them may
be its first segment. -/
theorem segments_of_suffix {p : Path} {s t : List Char} (hs : s ≠ ['.', '.'])
    (ht : t ≠ ['.', '.']) (h : [.name s, .name t] <:+ p.parts) :
    (∃ first xs ys zs, p.segments = first :: (xs ++ s :: (ys ++ t :: zs)) ∧
      (∀ y ∈ ys, isIdle y = true) ∧ ∀ z ∈ zs, isIdle z = true) ∨
    ∃ ys zs, p.segments = s :: (ys ++ t :: zs) ∧
      (∀ y ∈ ys, isIdle y = true) ∧ ∀ z ∈ zs, isIdle z = true := by
  obtain ⟨before, h⟩ := h
  obtain ⟨first, rest, hp⟩ : ∃ first rest, p.segments = first :: rest :=
    List.exists_cons_of_ne_nil (List.splitOn_ne_nil '/' _)
  unfold parts at h
  rw [hp] at h ⊢
  dsimp only at h
  generalize hst : (if p.isAbsolute then [Part.root] else if first = [] then []
    else if first = ['.'] then [Part.here] else [Part.ofSegment first]) = start at h
  have hl : start.length ≤ 1 := by
    subst hst
    split_ifs <;> simp
  have hf : start = [.name s] → first = s := by
    rintro rfl
    split_ifs at hst
    · cases hst
    · cases hst
    · exact eq_of_ofSegment hs (List.cons.inj hst).1
  generalize hfs : rest.filter (!isIdle ·) = fs at h
  rcases List.eq_nil_or_concat fs with rfl | ⟨fs, u, rfl⟩
  · have := congrArg List.length h
    simp only [List.length_append, List.length_cons, List.length_nil, List.map_nil] at this
    omega
  rw [List.concat_eq_append] at hfs h
  rw [List.map_append, List.append_cons, ← List.append_assoc] at h
  obtain ⟨hb, hu⟩ := List.append_inj' h rfl
  obtain rfl := eq_of_ofSegment ht (List.cons.inj hu).1.symm
  obtain ⟨mid, zs, rfl, hmid, -, hz⟩ := filter_eq_concat hfs
  rcases List.eq_nil_or_concat fs with rfl | ⟨fs, v, rfl⟩
  · right
    rw [List.map_nil, List.append_nil] at hb
    have hn : before = [] := by
      have := congrArg List.length hb
      simp only [List.length_append, List.length_cons, List.length_nil] at this
      exact List.eq_nil_of_length_eq_zero (by omega)
    rw [hn] at hb
    rw [hf hb.symm]
    refine ⟨mid, zs, rfl, ?_, hz⟩
    intro y hy
    simpa using List.filter_eq_nil_iff.mp hmid y hy
  · left
    rw [List.concat_eq_append] at hmid hb
    rw [List.map_append, ← List.append_assoc] at hb
    obtain rfl := eq_of_ofSegment hs (List.cons.inj (List.append_inj' hb rfl).2).1.symm
    obtain ⟨xs, ys, rfl, -, -, hy⟩ := filter_eq_concat hmid
    refine ⟨first, xs, ys, zs, ?_, hy, hz⟩
    rw [List.append_assoc]
    rfl

/-! ## Two steps up and down again -/

/-- A text that names one step down. -/
structure IsName (s : List Char) : Prop where
  not_idle : isIdle s = false
  not_up : s ≠ ['.', '.']
  no_slash : '/' ∉ s

section
variable {s t : String} (hs : IsName s.toList)
include hs

theorem segments_of_name : (⟨s⟩ : Path).segments = [s.toList] :=
  List.splitOn_eq_singleton hs.no_slash

theorem name_isAbsolute : (⟨s⟩ : Path).isAbsolute = false := by
  unfold isAbsolute
  rw [beq_eq_false_iff_ne]
  intro h
  exact hs.no_slash (List.mem_of_mem_head? h)

theorem name_ne_nil : s.toList ≠ [] := by
  intro h
  have := hs.not_idle
  rw [h] at this
  cases this

theorem segments_join_name {p : Path} (hp : p.segments.getLast? ≠ some []) :
    (p.join ⟨s⟩).segments = p.segments ++ [s.toList] := by
  rw [segments_join hp (name_isAbsolute hs), segments_of_name hs]

theorem segments_above_join {first : List Char} {rest : List (List Char)}
    (hr : ∀ s ∈ first :: rest, '/' ∉ s) (hl : rest.getLast? ≠ some []) :
    ((above first rest).join ⟨s⟩).segments = first :: (rest ++ [s.toList]) := by
  by_cases hn : first = [] ∧ rest = []
  · obtain ⟨rfl, rfl⟩ := hn
    have ha : ((above [] []).join ⟨s⟩).text.toList = '/' :: s.toList := by
      unfold join
      rw [if_neg (by simp [name_isAbsolute hs]), if_pos (by decide), String.toList_append]
      rfl
    unfold segments
    rw [ha]
    exact (List.splitOn_append_cons_self [] s.toList).trans
      (congrArg ([[]] ++ ·) (List.splitOn_eq_singleton hs.no_slash))
  · have hsa := segments_above hr hn
    rw [segments_join_name hs, hsa]
    · rfl
    · rw [hsa]
      cases rest with
      | nil => simpa using hn
      | cons r rest => simpa using hl

end

/-- Two steps up from a path of these last two steps and down again, only idle segments are lost. -/
theorem segments_of_up_and_down {p home : Path} {s t : String} (hs : IsName s.toList)
    (ht : IsName t.toList) (h : [.name s.toList, .name t.toList] <:+ p.parts)
    (hh : p.parent?.bind parent? = some home) :
    (∃ first rest ys, p.segments = first :: ys ∧ home = above first rest ∧
      ((home.join ⟨s⟩).join ⟨t⟩).segments = first :: (rest ++ [s.toList, t.toList]) ∧
      Thinned ys (rest ++ [s.toList, t.toList])) ∨
    ∃ ys, p.segments = s.toList :: ys ∧ home = ⟨""⟩ ∧
      ((home.join ⟨s⟩).join ⟨t⟩).segments = [s.toList, t.toList] ∧ Thinned ys [t.toList] := by
  have hslash : ∀ x ∈ p.segments, '/' ∉ x := slash_notMem_splitOn _
  have hlast : ∀ (q : Path) ss, q.segments = ss ++ [s.toList] → q.segments.getLast? ≠ some [] := by
    intro q ss hq
    rw [hq]
    simpa using name_ne_nil hs
  rcases segments_of_suffix hs.not_up ht.not_up h with
    ⟨first, xs, ys, zs, hp, hy, hz⟩ | ⟨ys, zs, hp, hy, hz⟩
  · left
    have hp' : p.segments = first :: ((xs ++ s.toList :: ys) ++ t.toList :: zs) := by
      rw [hp, List.append_assoc]
      rfl
    rw [hp] at hslash
    have hup : ∀ x ∈ first :: (xs ++ [s.toList]), '/' ∉ x := by
      intro x hx
      apply hslash
      simp only [List.mem_cons, List.mem_append, List.not_mem_nil, or_false] at hx ⊢
      tauto
    have hone := parent_eq_above hp' ht.not_idle hz
    rw [dropEndWhile_of_not hs.not_idle hy] at hone
    have hsa : (above first (xs ++ [s.toList])).segments = first :: (xs ++ s.toList :: []) :=
      segments_above hup (by simp)
    have htwo := parent_eq_above hsa hs.not_idle (by simp)
    rw [hone, Option.bind_some, htwo, Option.some.injEq] at hh
    have hsub := (Thinned.dropEnd xs).sublist
    have hjoin : ((above first (dropEndWhile isIdle xs)).join ⟨s⟩).segments =
        first :: (dropEndWhile isIdle xs ++ [s.toList]) := by
      apply segments_above_join hs _ (getLast_dropEndWhile rfl)
      intro x hx
      apply hup
      rcases List.mem_cons.mp hx with rfl | hx
      · exact List.mem_cons_self
      · exact List.mem_cons_of_mem _ (List.mem_append_left _ (hsub.subset hx))
    rw [hh] at hjoin
    refine ⟨first, dropEndWhile isIdle xs, _, hp, hh.symm, ?_, ?_⟩
    · rw [segments_join_name ht (hlast _ (first :: dropEndWhile isIdle xs) hjoin), hjoin]
      simp
    · exact (Thinned.dropEnd xs).append (.keep _ ((Thinned.of_idle hy).append
        (.keep _ (.of_idle hz))))
  · right
    have hone := parent_eq_above hp ht.not_idle hz
    rw [dropEndWhile_of_all hy] at hone
    have hsa : (above s.toList []).segments = [s.toList] :=
      segments_above (by simpa using hs.no_slash) (fun hn => name_ne_nil hs hn.1)
    rw [hone, Option.bind_some, parent_of_single hsa (name_ne_nil hs), Option.some.injEq] at hh
    subst hh
    have hjoin : ((⟨""⟩ : Path).join ⟨s⟩).segments = [s.toList] := by
      unfold join
      rw [if_neg (by simp [name_isAbsolute hs]), if_pos (by decide), String.empty_append]
      exact segments_of_name hs
    refine ⟨_, hp, rfl, ?_, (Thinned.of_idle hy).append (.keep _ (.of_idle hz))⟩
    rw [segments_join_name ht (hlast _ [] hjoin), hjoin]
    rfl

end AppVersions.Path
