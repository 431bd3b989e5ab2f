-- The laws of cutting: the pieces between separators, and what is left without the runs of some
-- characters at both ends.
import AppVersions.Text.Blank

namespace AppVersions.Text

variable {α : Type}

/-! ## Separators -/

/-- The pieces between separators hold all other characters, and only those. -/
theorem forall_mem_splitOn [DecidableEq α] {a : α} {p : α → Prop} {cs : List α} :
    (∀ s ∈ cs.splitOn a, ∀ c ∈ s, p c) ↔ ∀ c ∈ cs, c ≠ a → p c := by
  induction cs with
  | nil => simp
  | cons c cs ih =>
    rw [List.splitOn_cons_eq_if_modifyHead]
    split
    · rename_i hc
      simp [ih, eq_of_beq hc]
    · rename_i hc
      obtain ⟨first, rest, hr⟩ := List.exists_cons_of_ne_nil (List.splitOn_ne_nil a cs)
      rw [hr] at ih ⊢
      rw [List.modifyHead_cons, List.forall_mem_cons, List.forall_mem_cons, List.forall_mem_cons,
        ← ih, List.forall_mem_cons]
      have hne : c ≠ a := by simpa using hc
      simp [hne, and_assoc]

theorem notMem_of_mem_splitOn [DecidableEq α] {a : α} {s cs : List α} (h : s ∈ cs.splitOn a) :
    a ∉ s :=
  fun hm => forall_mem_splitOn (p := (· ≠ a)).mpr (fun _ _ hc => hc) s h a hm rfl

/-! ## Ends -/

variable {p : α → Bool} {xs ys s t : List α}

theorem dropEndWhile_append_of_pos (h : ∀ y ∈ ys, p y = true) :
    dropEndWhile p (xs ++ ys) = dropEndWhile p xs := by
  unfold dropEndWhile
  rw [List.reverse_append, List.dropWhile_append_of_pos (by simpa using h)]

theorem dropEndWhile_eq_self (h : ∀ c ∈ s.getLast?, p c = false) : dropEndWhile p s = s := by
  unfold dropEndWhile
  rw [← List.head?_reverse] at h
  cases hs : s.reverse with
  | nil => rw [List.reverse_eq_nil_iff.mp hs]; rfl
  | cons c cs =>
    rw [hs] at h
    rw [List.dropWhile_cons_of_neg (by simp [h c rfl]), ← hs, List.reverse_reverse]

/-- What is dropped at the end satisfies `p`, and what is left does not end in it. -/
theorem exists_dropped (p : α → Bool) (xs : List α) : ∃ ys, xs = dropEndWhile p xs ++ ys ∧
    (∀ y ∈ ys, p y = true) ∧ ∀ c ∈ (dropEndWhile p xs).getLast?, p c = false := by
  refine ⟨(xs.reverse.takeWhile p).reverse, ?_, ?_, ?_⟩
  · unfold dropEndWhile
    rw [← List.reverse_append, List.takeWhile_append_dropWhile, List.reverse_reverse]
  · intro y hy
    exact List.all_eq_true.mp List.all_takeWhile y (List.mem_reverse.mp hy)
  · intro c hc
    unfold dropEndWhile at hc
    rw [List.getLast?_reverse] at hc
    have hn := List.head?_dropWhile_not p xs.reverse
    rw [hc] at hn
    simpa using hn

/-- `s` is what is left of `t` without the runs of `p` around it. -/
structure Stripped (p : α → Bool) (t s : List α) : Prop where
  around : ∃ before after, t = before ++ (s ++ after) ∧ (∀ c ∈ before, p c = true) ∧
    ∀ c ∈ after, p c = true
  head : ∀ c ∈ s.head?, p c = false
  last : ∀ c ∈ s.getLast?, p c = false

theorem strip_eq_of_stripped (h : Stripped p t s) : strip p t = s := by
  obtain ⟨⟨before, after, rfl, hb, ha⟩, hh, hl⟩ := h
  unfold strip
  rw [List.dropWhile_append_of_pos hb]
  cases s with
  | nil =>
    rw [List.nil_append, ← List.append_nil after, List.dropWhile_append_of_pos ha]
    rfl
  | cons c cs =>
    rw [List.cons_append, List.dropWhile_cons_of_neg (by simp [hh c rfl]), ← List.cons_append,
      dropEndWhile_append_of_pos ha, dropEndWhile_eq_self hl]

theorem stripped_strip (p : α → Bool) (t : List α) : Stripped p t (strip p t) := by
  obtain ⟨after, hs, ha, hl⟩ := exists_dropped p (t.dropWhile p)
  refine ⟨⟨t.takeWhile p, after, ?_, List.all_eq_true.mp List.all_takeWhile, ha⟩, ?_, hl⟩
  · unfold strip
    rw [← hs, List.takeWhile_append_dropWhile]
  · intro c hc
    have hn := List.head?_dropWhile_not p t
    unfold strip at hc
    rw [hs, List.head?_append, hc] at hn
    simpa using hn

/-- Stripping leaves exactly what is left without the runs around it. -/
theorem strip_eq_iff : strip p t = s ↔ Stripped p t s :=
  ⟨fun h => h ▸ stripped_strip p t, strip_eq_of_stripped⟩

end AppVersions.Text
