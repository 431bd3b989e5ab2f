-- The laws of steps: a step up takes the last step off a path and a name puts one on, so that the
-- home of an installation and the path of its gcloud tell each other.
import AppVersions.Proofs.Discovery

namespace AppVersions.Path

open AppVersions.Text (dropEndWhile)

/-! ## Steps by segments -/

/-- The step that the first segment names. -/
def leading (first : List Char) : Part :=
  if first = [] then .root else if first = ['.'] then .here else Part.ofSegment first

/-- The steps that all other segments name. -/
def following (rest : List (List Char)) : List Part :=
  (rest.filter (!isIdle ·)).map Part.ofSegment

theorem segments_empty : segments ⟨""⟩ = [[]] := by decide

theorem parts_empty : parts ⟨""⟩ = [] := by decide

theorem exists_segments (p : Path) : ∃ first rest, p.segments = first :: rest :=
  List.exists_cons_of_ne_nil (List.splitOn_ne_nil '/' _)

theorem parts_eq {p : Path} {first : List Char} {rest : List (List Char)}
    (h : p.segments = first :: rest) (hn : p.text ≠ "") :
    p.parts = leading first :: following rest := by
  unfold parts leading following
  rw [h]
  dsimp only
  rw [isAbsolute_eq h hn]
  by_cases hf : first = []
  · rw [if_pos (decide_eq_true hf), if_pos hf]
    rfl
  · rw [if_neg (by simpa using hf), if_neg hf, if_neg hf]
    split <;> rfl

theorem following_append (xs ys : List (List Char)) :
    following (xs ++ ys) = following xs ++ following ys := by
  unfold following
  rw [List.filter_append, List.map_append]

theorem following_of_idle {xs : List (List Char)} (h : ∀ x ∈ xs, isIdle x = true) :
    following xs = [] := by
  unfold following
  rw [List.filter_eq_nil_iff.mpr (by simpa using h), List.map_nil]

theorem following_singleton {s : List Char} (h : isIdle s = false) :
    following [s] = [Part.ofSegment s] := by
  unfold following
  rw [List.filter_cons_of_pos (by simpa using h), List.filter_nil, List.map_singleton]

theorem following_of_thinned {xs ys : List (List Char)} (h : Thinned xs ys) :
    following xs = following ys := by
  unfold following
  congr 1
  induction h with
  | nil => rfl
  | keep s _ ih => rw [List.filter_cons, List.filter_cons, ih]
  | drop hs _ ih => rw [List.filter_cons_of_neg (by simpa using hs), ih]

theorem ofSegment_ne_root (s : List Char) : Part.ofSegment s ≠ .root := by
  unfold Part.ofSegment
  split <;> exact nofun

theorem leading_ne_root {first : List Char} (h : first ≠ []) : leading first ≠ .root := by
  unfold leading
  rw [if_neg h]
  split
  · exact nofun
  · exact ofSegment_ne_root first

/-! ## One step up -/

theorem parts_above {first : List Char} {rest : List (List Char)}
    (hs : ∀ s ∈ first :: rest, '/' ∉ s) :
    (above first rest).parts = leading first :: following rest := by
  by_cases hn : first = [] ∧ rest = []
  · obtain ⟨rfl, rfl⟩ := hn
    decide
  · have hsegments := segments_above hs hn
    refine parts_eq hsegments ?_
    intro ht
    rw [show above first rest = ⟨""⟩ from congrArg Path.mk ht, segments_empty] at hsegments
    obtain ⟨hf, hr⟩ := List.cons.inj hsegments
    exact hn ⟨hf.symm, hr.symm⟩

/-- A step up takes off the last step; there is none above the root or an empty path. -/
theorem parent_cases (p : Path) :
    (p.parent? = none ∧ (p.parts = [] ∨ p.parts = [.root])) ∨
      ∃ above last, p.parent? = some above ∧ p.parts = above.parts ++ [last] ∧ last ≠ .root := by
  by_cases hn : p.text = ""
  · left
    rw [show p = ⟨""⟩ from congrArg Path.mk hn]
    decide
  obtain ⟨first, rest, hp⟩ := exists_segments p
  have hslash : ∀ s ∈ first :: rest, '/' ∉ s := hp ▸ slash_notMem_splitOn _
  rw [parts_eq hp hn]
  rcases List.eq_nil_or_concat (rest.filter (!isIdle ·)) with hidle | ⟨init, s, hlast⟩
  · -- only the first segment names a step
    have hidle : ∀ s ∈ rest, isIdle s = true := by
      simpa using List.filter_eq_nil_iff.mp hidle
    have hparent : p.parent? = if first = [] then none else some ⟨""⟩ := by
      unfold parent?
      rw [hp]
      dsimp only
      rw [dropEndWhile_of_all hidle]
    rw [following_of_idle hidle, hparent]
    by_cases hf : first = []
    · left
      rw [if_pos hf, hf]
      exact ⟨rfl, .inr rfl⟩
    · right
      rw [if_neg hf]
      exact ⟨⟨""⟩, leading first, rfl, by rw [parts_empty]; rfl, leading_ne_root hf⟩
  · right
    rw [List.concat_eq_append] at hlast
    obtain ⟨before, after, rfl, -, hs, hafter⟩ := filter_eq_concat hlast
    have hthin := Thinned.dropEnd before
    have habove : ∀ t ∈ first :: dropEndWhile isIdle before, '/' ∉ t := by
      intro t ht
      apply hslash
      rcases List.mem_cons.mp ht with rfl | ht
      · exact List.mem_cons_self
      · exact List.mem_cons_of_mem _ (List.mem_append_left _ (hthin.sublist.subset ht))
    refine ⟨_, Part.ofSegment s, parent_eq_above hp hs hafter, ?_, ofSegment_ne_root s⟩
    rw [parts_above habove, ← following_of_thinned hthin, List.append_cons, following_append,
      following_append, following_of_idle hafter, following_singleton hs, List.append_nil]
    rfl

/-! ## Two steps up -/

/-- The steps of a path that can be taken off: all but the root. -/
def removable (p : Path) : List Part := p.parts.filter (· ≠ .root)

theorem removable_concat {p above : Path} {last : Part} (h : p.parts = above.parts ++ [last])
    (hl : last ≠ .root) : p.removable.length = above.removable.length + 1 := by
  unfold removable
  rw [h, List.filter_append, List.filter_cons_of_pos (by simpa using hl), List.length_append]
  rfl

theorem removable_of_root {p : Path} (h : p.parts = [] ∨ p.parts = [.root]) :
    p.removable.length = 0 := by
  unfold removable
  rcases h with h | h <;> rw [h] <;> rfl

/-- Two steps up there is something exactly when two steps can be taken off. -/
theorem grandparent_cases (p : Path) :
    (p.parent?.bind parent? = none ∧ p.removable.length < 2) ∨
      ∃ home s t, p.parent?.bind parent? = some home ∧ p.parts = home.parts ++ [s, t] ∧
        2 ≤ p.removable.length := by
  rcases parent_cases p with ⟨hn, hp⟩ | ⟨above, t, ha, hp, ht⟩
  · left
    rw [hn, removable_of_root hp]
    exact ⟨rfl, by decide⟩
  have hlength := removable_concat hp ht
  rw [ha, Option.bind_some]
  rcases parent_cases above with ⟨hn, hr⟩ | ⟨home, s, hh, hs, hne⟩
  · left
    rw [removable_of_root hr] at hlength
    exact ⟨hn, by omega⟩
  · right
    refine ⟨home, s, t, hh, ?_, ?_⟩
    · rw [hp, hs, List.append_assoc]
      rfl
    · rw [removable_concat hs hne] at hlength
      omega

/-! ## One step down -/

/-- Below a path that is not empty a name comes last, behind a slash that may be there already. -/
theorem segments_join_of_name {s : String} (hs : IsName s.toList) {p : Path} (hn : p.text ≠ "")
    {first : List Char} {rest : List (List Char)} (hp : p.segments = first :: rest) :
    ∃ kept, (p.join ⟨s⟩).segments = first :: (kept ++ [s.toList]) ∧
      following kept = following rest := by
  have hs' : s.toList.splitOn '/' = [s.toList] := List.splitOn_eq_singleton hs.no_slash
  unfold segments at hp ⊢
  unfold join
  rw [if_neg (by simp [name_isAbsolute hs])]
  by_cases hend : p.text.toList.getLast? = some '/'
  · obtain ⟨cs, hcs⟩ := List.getLast?_eq_some_iff.mp hend
    obtain ⟨start, kept, hstart⟩ := List.exists_cons_of_ne_nil (List.splitOn_ne_nil '/' cs)
    rw [if_pos (.inr hend), String.toList_append, hcs, List.append_assoc, List.singleton_append,
      List.splitOn_append_cons_self, hs', hstart]
    rw [hcs, List.splitOn_append_cons_self, hstart] at hp
    obtain ⟨rfl, rfl⟩ := List.cons.inj hp
    exact ⟨kept, rfl, ((following_append kept [[]]).trans (List.append_nil _)).symm⟩
  · rw [if_neg (by simp [hn, hend]), String.toList_append, String.toList_append,
      List.append_assoc, show "/".toList = ['/'] from rfl, List.singleton_append,
      List.splitOn_append_cons_self, hs', hp]
    exact ⟨rest, rfl, rfl⟩

/-- A name is one more step. -/
theorem parts_join_name {s : String} (hs : IsName s.toList) (p : Path) :
    (p.join ⟨s⟩).parts = p.parts ++ [.name s.toList] := by
  have hstep : Part.ofSegment s.toList = .name s.toList := if_neg hs.not_up
  have hnonempty : s ≠ "" := by
    rintro rfl
    exact name_ne_nil hs rfl
  by_cases hn : p.text = ""
  · have hj : p.join ⟨s⟩ = ⟨s⟩ := by
      unfold join
      rw [if_neg (by simp [name_isAbsolute hs]), if_pos (by simp [hn]), hn, String.empty_append]
    have hidle := hs.not_idle
    rw [hj, parts_eq (segments_of_name hs) hnonempty,
      show p = ⟨""⟩ from congrArg Path.mk hn, parts_empty]
    unfold leading
    rw [if_neg (name_ne_nil hs), if_neg, hstep]
    · rfl
    · intro h
      rw [h] at hidle
      cases hidle
  · obtain ⟨first, rest, hp⟩ := exists_segments p
    obtain ⟨kept, hj, hkept⟩ := segments_join_of_name hs hn hp
    have hne : (p.join ⟨s⟩).text ≠ "" := by
      intro h
      rw [show p.join ⟨s⟩ = ⟨""⟩ from congrArg Path.mk h, segments_empty] at hj
      simp at hj
    rw [parts_eq hj hne, parts_eq hp hn, following_append, hkept, following_singleton hs.not_idle,
      hstep]
    rfl

end AppVersions.Path

namespace AppVersions.Sdk

/-! ## Homes -/

theorem parts_gcloudPath (sdk : Sdk) :
    sdk.gcloudPath.parts = sdk.home.parts ++ [.name "bin".toList, .name "gcloud".toList] := by
  unfold gcloudPath
  rw [Path.parts_join_name isName_gcloud, Path.parts_join_name isName_bin, List.append_assoc]
  rfl

/-- There is an installation around a path exactly when two steps can be taken off the path. -/
theorem ofGcloudPath_cases (p : Path) :
    (ofGcloudPath p = .error (.notFound ("cannot determine Cloud SDK home from " ++ p.text)) ∧
        p.removable.length < 2) ∨
      ∃ sdk s t, ofGcloudPath p = .ok sdk ∧ p.parts = sdk.home.parts ++ [s, t] ∧
        2 ≤ p.removable.length := by
  unfold ofGcloudPath
  rcases p.grandparent_cases with ⟨hn, hl⟩ | ⟨home, s, t, hh, hp, hl⟩
  · rw [hn]
    exact .inl ⟨rfl, hl⟩
  · rw [hh]
    exact .inr ⟨⟨home⟩, s, t, rfl, hp, hl⟩

/-- The home of an installation is found again from the path of its gcloud, step by step; from any
path a home is found unless fewer than two steps can be taken off, and its gcloud is at that path
exactly when the last two steps are those of a gcloud. -/
theorem home_and_gcloud_are_found_from_each_other :
    (∀ home : Path, ∃ sdk, ofGcloudPath (gcloudPath ⟨home⟩) = .ok sdk ∧ sdk.home.Same home) ∧
      ∀ p : Path, ((∃ e, ofGcloudPath p = .error e) ↔ p.removable.length < 2) ∧
        ∀ sdk, ofGcloudPath p = .ok sdk →
          (sdk.gcloudPath.Same p ↔
            [.name "bin".toList, .name "gcloud".toList] <:+ p.parts) := by
  constructor
  · intro home
    have hparts := parts_gcloudPath ⟨home⟩
    rcases ofGcloudPath_cases (gcloudPath ⟨home⟩) with ⟨-, hl⟩ | ⟨sdk, s, t, hs, hp, -⟩
    · unfold Path.removable at hl
      rw [hparts, List.filter_append, List.length_append] at hl
      exact absurd hl (by simp)
    · exact ⟨sdk, hs, (List.append_inj' (hp.symm.trans hparts) rfl).1⟩
  · intro p
    rcases ofGcloudPath_cases p with ⟨he, hl⟩ | ⟨found, s, t, hs, hp, hl⟩
    · refine ⟨iff_of_true ⟨_, he⟩ hl, fun sdk hok => ?_⟩
      cases he.symm.trans hok
    · refine ⟨iff_of_false (fun ⟨e, he⟩ => ?_) (by omega), fun sdk hok => ?_⟩
      · cases he.symm.trans hs
      · obtain rfl := Except.ok.inj (hs.symm.trans hok)
        unfold Path.Same
        rw [parts_gcloudPath, hp]
        constructor
        · intro h
          exact ⟨found.home.parts, h⟩
        · rintro ⟨before, h⟩
          rw [(List.append_inj' h rfl).2]

/-- Dots, slashes and steps up around the last two steps make no difference. -/
theorem the_home_of_a_winding_path :
    ofGcloudPath ⟨"./sdk/..//bin/.//gcloud/."⟩ = .ok ⟨⟨"./sdk/.."⟩⟩ ∧
      (gcloudPath ⟨⟨"./sdk/.."⟩⟩).Same ⟨"./sdk/..//bin/.//gcloud/."⟩ := by
  have hs : ofGcloudPath ⟨"./sdk/..//bin/.//gcloud/."⟩ = .ok ⟨⟨"./sdk/.."⟩⟩ := by decide
  refine ⟨hs, ((home_and_gcloud_are_found_from_each_other.2 _).2 _ hs).mpr ?_⟩
  exact ⟨[.here, .name "sdk".toList, .up], by decide⟩

end AppVersions.Sdk
