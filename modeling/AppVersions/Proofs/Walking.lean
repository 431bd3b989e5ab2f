-- The laws of walking through a tree: idle segments do not matter, a walk goes on from where its
-- first part ends, and the text of a path counts only through its segments.
import AppVersions.Machine.FileTree
import AppVersions.Proofs.Paths

namespace AppVersions.Machine.FileTree

open AppVersions.Path (Thinned isIdle)

variable {t : FileTree}

/-! ## One segment -/

/-- Where one segment leads: to a place, or to a link with the place from which that is followed. -/
def stride (t : FileTree) (place : Place) (s : List Char) : Except IoError (Place ⊕ Place × Path) :=
  match t.node? place with
  | some (.directory mode) =>
    if ¬mayRun mode then .error .accessDenied
    else if isIdle s then .ok (.inl place)
    else if s = ['.', '.'] then .ok (.inl place.dropLast)
    else if maxNameBytes < (Text.Utf8.encode s).length then .error .nameTooLong
    else
      match t.node? (place ++ [s]) with
      | none => .error .noEntry
      | some (.link target) =>
        if target.text = "" then .error .noEntry
        else .ok (.inr (if target.isAbsolute then [] else place, target))
      | some _ => .ok (.inl (place ++ [s]))
  | _ => .error .noDirectory

theorem walkUntilLink_cons (jump : Place → List (List Char) → Except IoError Place) (place : Place)
    (s : List Char) (rest : List (List Char)) :
    t.walkUntilLink jump place (s :: rest) =
      match t.stride place s with
      | .error e => .error e
      | .ok (.inl next) => t.walkUntilLink jump next rest
      | .ok (.inr (start, target)) => jump start (target.segments ++ rest) := by
  conv => lhs; unfold walkUntilLink
  unfold stride
  rcases t.node? place with _ | n
  · rfl
  cases n with
  | directory mode =>
    dsimp only
    split_ifs
    · rfl
    · rfl
    · rfl
    · rcases t.node? (place ++ [s]) with _ | n
      · rfl
      cases n with
      | link target =>
        dsimp only
        split_ifs <;> rfl
      | file _ _ | program _ | device _ | directory _ => rfl
    · rfl
  | file _ _ | program _ | device _ | link _ => rfl

theorem walk_succ (links : Nat) (place : Place) (xs : List (List Char)) :
    t.walk (links + 1) place xs = t.walkUntilLink (t.walk links) place xs := rfl

/-- A segment is only followed in a directory that may be looked into. -/
theorem directory_of_stride {place : Place} {s : List Char} {found : Place ⊕ Place × Path}
    (h : t.stride place s = .ok found) :
    ∃ mode, t.node? place = some (.directory mode) ∧ mayRun mode = true := by
  unfold stride at h
  split at h
  · rename_i mode hm
    refine ⟨mode, hm, ?_⟩
    split_ifs at h with hr
    · simpa using hr
    all_goals simpa using hr
  · cases h

theorem stride_of_idle {place : Place} {s : List Char} {found : Place ⊕ Place × Path}
    (hs : isIdle s = true) (h : t.stride place s = .ok found) : found = .inl place := by
  unfold stride at h
  split at h
  · split_ifs at h
    cases h
    rfl
  · cases h

/-! ## Idle segments -/

/-- What a walk reaches, it reaches without idle segments, if that holds behind links. -/
theorem walkUntilLink_thinned {jump : Place → List (List Char) → Except IoError Place}
    {goal : Place}
    (hj : ∀ {place xs ys}, Thinned xs ys → jump place xs = .ok goal → jump place ys = .ok goal)
    {xs ys : List (List Char)} (h : Thinned xs ys) {place : Place}
    (hw : t.walkUntilLink jump place xs = .ok goal) :
    t.walkUntilLink jump place ys = .ok goal := by
  induction h generalizing place with
  | nil => exact hw
  | keep s h ih =>
    rw [walkUntilLink_cons] at hw ⊢
    rcases hn : t.stride place s with e | next | ⟨start, target⟩ <;> rw [hn] at hw
    · cases hw
    · exact ih hw
    · exact hj ((Thinned.refl _).append h) hw
  | drop hs h ih =>
    rw [walkUntilLink_cons] at hw
    split at hw
    · cases hw
    · rename_i hn
      cases stride_of_idle hs hn
      exact ih hw
    · rename_i hn
      cases stride_of_idle hs hn

theorem walk_thinned {links : Nat} {place goal : Place} {xs ys : List (List Char)}
    (h : Thinned xs ys) (hw : t.walk links place xs = .ok goal) :
    t.walk links place ys = .ok goal := by
  induction links generalizing place xs ys with
  | zero => cases hw
  | succ links ih =>
    rw [walk_succ] at hw ⊢
    refine walkUntilLink_thinned ?_ h hw
    intro place xs ys h hw
    exact ih h hw

/-! ## Walks in two parts -/

/-- A walk goes on, with the links that are left, from where its first part ends. -/
theorem walk_append {links : Nat} {place goal : Place} {xs ys : List (List Char)}
    (hw : t.walk links place (xs ++ ys) = .ok goal) :
    ∃ middle left, t.walk links place xs = .ok middle ∧ t.walk left middle ys = .ok goal := by
  induction links generalizing place xs with
  | zero => cases hw
  | succ links ih =>
    induction xs generalizing place with
    | nil => exact ⟨place, links + 1, rfl, hw⟩
    | cons s xs ihx =>
      rw [List.cons_append, walk_succ, walkUntilLink_cons] at hw
      rw [walk_succ, walkUntilLink_cons]
      rcases hn : t.stride place s with e | next | ⟨start, target⟩ <;> rw [hn] at hw
      · cases hw
      · exact ihx hw
      · dsimp only at hw
        rw [← List.append_assoc] at hw
        exact ih hw

/-- Where a walk goes on there is a directory. -/
theorem directory_of_walk {links : Nat} {place goal : Place} {s : List Char}
    {xs : List (List Char)} (hw : t.walk links place (s :: xs) = .ok goal) :
    ∃ mode, t.node? place = some (.directory mode) := by
  cases links with
  | zero => cases hw
  | succ links =>
    rw [walk_succ, walkUntilLink_cons] at hw
    cases hs : t.stride place s with
    | error e =>
      rw [hs] at hw
      cases hw
    | ok found =>
      obtain ⟨mode, hm, -⟩ := directory_of_stride hs
      exact ⟨mode, hm⟩

/-! ## Texts of paths -/

theorem checkPath_ok {p : Path} :
    checkPath p = .ok () ↔ '\x00' ∉ p.text.toList ∧ p.text ≠ "" ∧ p.text.utf8ByteSize < maxPathBytes
    := by
  unfold checkPath
  simp only [List.contains_iff_mem]
  split_ifs with hc he hl
  · simp [hc]
  · simp [he]
  · simp only [false_iff, not_and]
    omega
  · simp only [hc, he, not_false_eq_true, ne_eq, true_and, true_iff]
    omega

theorem locate_ok {here goal : Place} {p : Path} :
    t.locate here p = .ok goal ↔ checkPath p = .ok () ∧
      t.walk (maxLinks + 1) (if p.isAbsolute then [] else here) p.segments = .ok goal := by
  unfold locate
  rcases checkPath p with e | ⟨⟩
  · simp [bind, Except.bind]
  · simp [bind, Except.bind]

/-- A text of fewer characters can be followed as well. -/
theorem checkPath_of_sublist {p q : Path} (h : q.text.toList.Sublist p.text.toList)
    (hn : q.text ≠ "") (hp : checkPath p = .ok ()) : checkPath q = .ok () := by
  obtain ⟨hc, -, hl⟩ := checkPath_ok.mp hp
  refine checkPath_ok.mpr ⟨fun hm => hc (h.subset hm), hn, Nat.lt_of_le_of_lt ?_ hl⟩
  have hs := Path.utf8ByteSize_le_of_sublist h
  rwa [String.ofList_toList, String.ofList_toList] at hs

/-- A path names the same without some idle segments behind its first segment. -/
theorem locate_thinned {here goal : Place} {p q : Path} {first : List Char}
    {xs ys : List (List Char)} (hp : p.segments = first :: xs) (hq : q.segments = first :: ys)
    (h : Thinned xs ys) (hn : q.text ≠ "") (hl : t.locate here p = .ok goal) :
    t.locate here q = .ok goal := by
  obtain ⟨hc, hw⟩ := locate_ok.mp hl
  refine locate_ok.mpr ⟨checkPath_of_sublist (Path.text_sublist hp hq h.sublist) hn hc, ?_⟩
  rw [Path.isAbsolute_eq hq hn, hq]
  rw [Path.isAbsolute_eq hp (checkPath_ok.mp hc).2.1, hp] at hw
  exact walk_thinned (.keep first h) hw

/-- From the root, a path without links leads where it was made for. -/
theorem locate_canonical {here place : Place} {p real : Path} (hl : t.locate here p = .ok place)
    (hr : t.canonical? here p = some real) :
    real.isAbsolute = true ∧ t.locate here real = .ok place := by
  unfold canonical? at hr
  rw [hl] at hr
  dsimp only at hr
  split at hr
  · rename_i hq
    cases hr
    have ha : (⟨placeText place⟩ : Path).isAbsolute = true := by
      unfold placeText Path.isAbsolute
      rw [String.toList_ofList]
      rfl
    refine ⟨ha, ?_⟩
    rcases hq' : t.locate [] ⟨placeText place⟩ with e | q <;> rw [hq'] at hq
    · cases hq
    · cases hq
      obtain ⟨hc, hw⟩ := locate_ok.mp hq'
      rw [if_pos ha] at hw
      refine locate_ok.mpr ⟨hc, ?_⟩
      rw [if_pos ha]
      exact hw
  · cases hr

end AppVersions.Machine.FileTree
