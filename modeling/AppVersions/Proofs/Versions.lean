-- The grammar of semantic versions and its laws: a text is read as a version exactly when it spells
-- one, and a version that was read is written as its text.
import AppVersions.Proofs.Cuts
import AppVersions.Proofs.Readers
import AppVersions.Version
import Mathlib.Data.List.Induction
import Mathlib.Data.Prod.Lex

namespace AppVersions.Version

open AppVersions.Reader (StopsAt bind_eq_ok_iff stopsAt_cons stopsAt_nil)

/-! ## Grammar -/

/-- Digits that write a number below 2 ^ 64, without a zero before others. -/
structure NumberSpelled (n : Nat) (ds : List Char) : Prop where
  ne_nil : ds ≠ []
  digits : ∀ c ∈ ds, c.isDigit = true
  lone_zero : ds.head? = some '0' → ds = ['0']
  value : Nat.ofDigitChars 10 ds 0 = n
  small : n < 18446744073709551616

/-- Letters, digits and hyphens, at least one of them. -/
structure IsIdentifier (s : List Char) : Prop where
  ne_nil : s ≠ []
  chars : ∀ c ∈ s, isIdentifierChar c = true

/-- An identifier of a pre-release: if it is a number, it has no zero before other digits. -/
structure IsPreIdentifier (s : List Char) : Prop extends IsIdentifier s where
  lone_zero : (∀ c ∈ s, c.isDigit = true) → s.head? = some '0' → s = ['0']

/-- Identifiers with points between them, behind a mark, or nothing. -/
inductive LabelSpelled (mark : Char) (P : List Char → Prop) : List Char → List Char → Prop
  | absent : LabelSpelled mark P [] []
  | given {ss : List (List Char)} (hn : ss ≠ []) (h : ∀ s ∈ ss, P s) :
      LabelSpelled mark P (['.'].intercalate ss) (mark :: ['.'].intercalate ss)

/-- The texts of a version. -/
inductive Spelled : Version → List Char → Prop
  | parts {major minor patch : Nat} {a b c pre preText build buildText : List Char}
      (ha : NumberSpelled major a) (hb : NumberSpelled minor b) (hc : NumberSpelled patch c)
      (hp : LabelSpelled '-' IsPreIdentifier pre preText)
      (hm : LabelSpelled '+' IsIdentifier build buildText) :
      Spelled ⟨major, minor, patch, pre, build⟩
        (a ++ '.' :: (b ++ '.' :: (c ++ (preText ++ buildText))))

/-! ## Numbers -/

theorem hasLeadingZero_eq_false_iff {ds : List Char} :
    hasLeadingZero ds = false ↔ (ds.head? = some '0' → ds = ['0']) := by
  match ds with
  | [] => exact iff_of_true rfl nofun
  | [c] =>
    refine iff_of_true (by unfold hasLeadingZero; split <;> simp_all) ?_
    rintro ⟨⟩
    rfl
  | c :: d :: ds =>
    by_cases hc : c = '0'
    · simp [hasLeadingZero, hc]
    · simp [hasLeadingZero, hc]

theorem number_of_run {part : Part} {ds rest : List Char} (hn : ds ≠ [])
    (hd : ∀ c ∈ ds, c.isDigit = true) (hr : StopsAt Char.isDigit rest) :
    number part (ds ++ rest) =
      if hasLeadingZero ds then .error (.leadingZero part)
      else if maxNumber < Nat.ofDigitChars 10 ds 0 then .error (.tooLarge part)
      else .ok (Nat.ofDigitChars 10 ds 0, rest) := by
  obtain ⟨c, cs, rfl⟩ := List.exists_cons_of_ne_nil hn
  unfold number
  rw [Reader.takeWhile_of_run hd hr, Reader.dropWhile_of_run hd hr]

theorem number_eq_ok_iff {part : Part} {cs rest : List Char} {n : Nat} :
    number part cs = .ok (n, rest) ↔
      ∃ ds, NumberSpelled n ds ∧ StopsAt Char.isDigit rest ∧ cs = ds ++ rest := by
  constructor
  · intro h
    have hn : cs.takeWhile Char.isDigit ≠ [] := by
      intro hn
      unfold number at h
      rw [hn] at h
      cases hr : cs.dropWhile Char.isDigit with
      | nil => rw [hr] at h; cases h
      | cons c left => rw [hr] at h; cases h
    have hcs := List.takeWhile_append_dropWhile (p := Char.isDigit) (l := cs)
    have hstop := Reader.stopsAt_dropWhile Char.isDigit cs
    have hd : ∀ c ∈ cs.takeWhile Char.isDigit, c.isDigit = true :=
      List.all_eq_true.mp List.all_takeWhile
    generalize cs.takeWhile Char.isDigit = ds at hn hcs hd
    generalize cs.dropWhile Char.isDigit = left at hcs hstop
    rw [← hcs] at h ⊢
    rw [number_of_run hn hd hstop] at h
    split at h
    · cases h
    split at h
    · cases h
    · rename_i hz hl
      cases h
      refine ⟨ds, ⟨hn, hd, ?_, rfl, ?_⟩, hstop, rfl⟩
      · exact hasLeadingZero_eq_false_iff.mp (by simpa using hz)
      · unfold maxNumber at hl
        omega
  · rintro ⟨ds, h, hr, rfl⟩
    have hl : ¬maxNumber < n := by
      have := h.small
      unfold maxNumber
      omega
    rw [number_of_run h.ne_nil h.digits hr, hasLeadingZero_eq_false_iff.mpr h.lone_zero, h.value,
      if_neg Bool.false_ne_true, if_neg hl]

theorem digitChar_of_isDigit {c : Char} (h : c.isDigit = true) :
    c.toNat - '0'.toNat < 10 ∧ Nat.digitChar (c.toNat - '0'.toNat) = c := by
  have hc : ∀ d < 10, Nat.digitChar d = Char.ofNat ('0'.toNat + d) := by decide
  have hb := Char.isDigit_iff_toNat.mp h
  have hlt : c.toNat - '0'.toNat < 10 := by
    have : '9'.toNat = '0'.toNat + 9 := rfl
    omega
  refine ⟨hlt, ?_⟩
  rw [hc _ hlt, Nat.add_sub_cancel' hb.1, Char.ofNat_toNat]

/-- Digits without a zero before others are how their number is written. -/
theorem toDigits_ofDigitChars {ds : List Char} (hn : ds ≠ []) (hd : ∀ c ∈ ds, c.isDigit = true)
    (hz : ds.head? = some '0' → ds = ['0']) : Nat.toDigits 10 (Nat.ofDigitChars 10 ds 0) = ds := by
  induction ds using List.reverseRecOn with
  | nil => exact absurd rfl hn
  | append_singleton init c ih =>
    obtain ⟨hlt, hc⟩ := digitChar_of_isDigit (hd c (by simp))
    rw [Nat.ofDigitChars_append, Nat.ofDigitChars_cons, Nat.ofDigitChars_nil]
    by_cases hi : init = []
    · rw [hi, Nat.ofDigitChars_nil, Nat.mul_zero, Nat.zero_add, Nat.toDigits_of_lt_base hlt, hc]
      rfl
    · have hzero : init.head? ≠ some '0' := by
        intro hh
        have := congrArg List.length (hz (by rw [List.head?_append, hh]; rfl))
        simp [hi] at this
      have ih := ih hi (fun d hm => hd d (List.mem_append_left _ hm)) (absurd · hzero)
      have hpos : 0 < Nat.ofDigitChars 10 init 0 := by
        rw [Nat.pos_iff_ne_zero]
        intro h
        rw [h] at ih
        rw [← ih] at hzero
        exact hzero rfl
      rw [← Nat.toDigits_append_toDigits (by decide) hpos hlt, ih, Nat.toDigits_of_lt_base hlt, hc]

/-! ## Identifiers -/

/-- Characters of identifiers and the points between them. -/
def isLabelChar (c : Char) : Bool := isIdentifierChar c || c == '.'

theorem isLabelChar_iff {cs : List Char} : (∀ c ∈ cs, isLabelChar c = true) ↔
    ∀ s ∈ cs.splitOn '.', ∀ c ∈ s, isIdentifierChar c = true := by
  rw [Text.forall_mem_splitOn]
  refine forall₂_congr fun c _ => ?_
  by_cases hc : c = '.'
  · simp [isLabelChar, hc]
  · simp [isLabelChar, hc]

theorem identifier_of_run {part : Part} {run rest : List Char}
    (h : ∀ c ∈ run, isLabelChar c = true) (hr : StopsAt isLabelChar rest) :
    identifier part (run ++ rest) =
      match (run.splitOn '.').findSome? (segmentFault? part) with
      | some fault => .error fault
      | none => .ok (run, rest) := by
  have ht : (run ++ rest).takeWhile (fun c => isIdentifierChar c || c == '.') = run :=
    Reader.takeWhile_of_run h hr
  cases hf : (run.splitOn '.').findSome? (segmentFault? part) with
  | some fault => simp only [identifier, ht, hf]
  | none => simp only [identifier, ht, hf, List.drop_left]

theorem identifier_eq_ok_iff {part : Part} {cs rest body : List Char} :
    identifier part cs = .ok (body, rest) ↔
      (∀ s ∈ body.splitOn '.', segmentFault? part s = none) ∧
        (∀ c ∈ body, isLabelChar c = true) ∧ StopsAt isLabelChar rest ∧ cs = body ++ rest := by
  constructor
  · intro h
    have hcs := List.takeWhile_append_dropWhile (p := isLabelChar) (l := cs)
    have hstop := Reader.stopsAt_dropWhile isLabelChar cs
    have hrun : ∀ c ∈ cs.takeWhile isLabelChar, isLabelChar c = true :=
      List.all_eq_true.mp List.all_takeWhile
    generalize cs.takeWhile isLabelChar = run at hcs hrun
    generalize cs.dropWhile isLabelChar = left at hcs hstop
    rw [← hcs, identifier_of_run hrun hstop] at h
    split at h
    · cases h
    · rename_i hf
      cases h
      exact ⟨List.findSome?_eq_none_iff.mp hf, hrun, hstop, hcs.symm⟩
  · rintro ⟨hf, hrun, hstop, rfl⟩
    rw [identifier_of_run hrun hstop, List.findSome?_eq_none_iff.mpr hf]

theorem after_eq_ok_iff {c : Char} {r : Read (List Char)} {cs rest x : List Char} :
    after c r cs = .ok (x, rest) ↔
      (∃ left, cs = c :: left ∧ r left = .ok (x, rest)) ∨
        (cs.head? ≠ some c ∧ x = [] ∧ cs = rest) := by
  unfold after
  rw [Reader.bind_ok (Reader.peek_apply cs)]
  by_cases hc : cs.head? = some c
  · obtain ⟨left, rfl⟩ := List.head?_eq_some_iff.mp hc
    rw [if_pos hc, Reader.bind_ok (Reader.next_cons _ _)]
    simp
  · rw [if_neg hc]
    constructor
    · intro h
      cases h
      exact .inr ⟨hc, rfl, rfl⟩
    · rintro (⟨left, rfl, -⟩ | ⟨-, rfl, rfl⟩)
      · exact absurd rfl hc
      · rfl

/-- What identifiers are to a part of a version: what is no fault in it, and of these characters. -/
def Admits (part : Part) (P : List Char → Prop) : Prop :=
  ∀ s, P s ↔ segmentFault? part s = none ∧ ∀ c ∈ s, isIdentifierChar c = true

theorem admits_preRelease : Admits .preRelease IsPreIdentifier := by
  intro s
  unfold segmentFault?
  constructor
  · intro h
    refine ⟨?_, h.chars⟩
    rw [if_neg h.ne_nil, if_neg]
    rintro ⟨-, hd, hz⟩
    rw [hasLeadingZero_eq_false_iff.mpr (h.lone_zero (List.all_eq_true.mp hd))] at hz
    cases hz
  · rintro ⟨hf, hc⟩
    split at hf
    · cases hf
    split at hf
    · cases hf
    · rename_i hn hz
      refine ⟨⟨hn, hc⟩, fun hd => hasLeadingZero_eq_false_iff.mp ?_⟩
      simpa using fun hl => hz ⟨rfl, List.all_eq_true.mpr hd, hl⟩

theorem admits_build : Admits .build IsIdentifier := by
  intro s
  unfold segmentFault?
  rw [if_neg (fun h : Part.build = .preRelease ∧ _ => Part.noConfusion h.1)]
  constructor
  · intro h
    exact ⟨if_neg h.ne_nil, h.chars⟩
  · rintro ⟨hf, hc⟩
    refine ⟨?_, hc⟩
    rintro rfl
    cases hf

/-- A label is read whole, and nothing is read in place of one that is absent. -/
theorem label_eq_ok_iff {part : Part} {mark : Char} {P : List Char → Prop} (hP : Admits part P)
    {cs rest x : List Char} :
    after mark (identifier part) cs = .ok (x, rest) ↔
      ∃ text, LabelSpelled mark P x text ∧ cs = text ++ rest ∧
        if text = [] then rest.head? ≠ some mark else StopsAt isLabelChar rest := by
  rw [after_eq_ok_iff]
  constructor
  · rintro (⟨left, rfl, h⟩ | ⟨hc, rfl, rfl⟩)
    · obtain ⟨hf, hrun, hstop, rfl⟩ := identifier_eq_ok_iff.mp h
      have hs : LabelSpelled mark P (['.'].intercalate (x.splitOn '.')) _ :=
        .given (List.splitOn_ne_nil '.' x) fun s hs =>
          (hP s).mpr ⟨hf s hs, isLabelChar_iff.mp hrun s hs⟩
      rw [List.intercalate_splitOn] at hs
      exact ⟨mark :: x, hs, rfl, by rwa [if_neg (List.cons_ne_nil _ _)]⟩
    · exact ⟨[], .absent, rfl, by rwa [if_pos rfl]⟩
  · rintro ⟨text, hs, rfl, hr⟩
    cases hs with
    | absent =>
      rw [if_pos rfl] at hr
      exact .inr ⟨hr, rfl, rfl⟩
    | @given ss hn h =>
      rw [if_neg (List.cons_ne_nil _ _)] at hr
      have hsplit : (['.'].intercalate ss).splitOn '.' = ss := by
        refine List.splitOn_intercalate '.' ?_ hn
        intro s hs hm
        have := ((hP s).mp (h s hs)).2 '.' hm
        cases this
      refine .inl ⟨_, rfl, identifier_eq_ok_iff.mpr ⟨?_, ?_, hr, rfl⟩⟩
      · rw [hsplit]
        exact fun s hs => ((hP s).mp (h s hs)).1
      · rw [isLabelChar_iff, hsplit]
        exact fun s hs => ((hP s).mp (h s hs)).2

/-! ## Versions -/

theorem point_eq_ok_iff {part : Part} {cs rest : List Char} :
    point part cs = .ok ((), rest) ↔ cs = '.' :: rest := by
  unfold point
  split
  · simp
  · rename_i c cs hc
    simp only [reduceCtorEq, false_iff]
    intro h
    exact hc (List.cons.inj h).1
  · simp

/-- A label begins with its mark, if it is there. -/
theorem stopsAt_of_label {p : Char → Bool} {mark : Char} {P : List Char → Prop}
    {x text rest : List Char} (h : LabelSpelled mark P x text) (hm : p mark = false)
    (hr : StopsAt p rest) : StopsAt p (text ++ rest) := by
  cases h with
  | absent => exact hr
  | given _ _ => exact stopsAt_cons hm _

theorem whole_eq_ok_iff {cs rest : List Char} {v : Version} :
    whole cs = .ok (v, rest) ↔ Spelled v cs ∧ rest = [] := by
  unfold whole
  constructor
  · intro h
    rw [bind_eq_ok_iff] at h
    obtain ⟨major, _, hmajor, h⟩ := h
    rw [bind_eq_ok_iff] at h
    obtain ⟨_, _, hdot, h⟩ := h
    rw [bind_eq_ok_iff] at h
    obtain ⟨minor, _, hminor, h⟩ := h
    rw [bind_eq_ok_iff] at h
    obtain ⟨_, _, hdot', h⟩ := h
    rw [bind_eq_ok_iff] at h
    obtain ⟨patch, _, hpatch, h⟩ := h
    rw [bind_eq_ok_iff] at h
    obtain ⟨pre, _, hpre, h⟩ := h
    rw [bind_eq_ok_iff] at h
    obtain ⟨build, left, hbuild, h⟩ := h
    rw [Reader.bind_ok (Reader.peek_apply left)] at h
    obtain ⟨a, ha, -, rfl⟩ := number_eq_ok_iff.mp hmajor
    obtain rfl := point_eq_ok_iff.mp hdot
    obtain ⟨b, hb, -, rfl⟩ := number_eq_ok_iff.mp hminor
    obtain rfl := point_eq_ok_iff.mp hdot'
    obtain ⟨c, hc, -, rfl⟩ := number_eq_ok_iff.mp hpatch
    obtain ⟨preText, hp, rfl, -⟩ := (label_eq_ok_iff admits_preRelease).mp hpre
    obtain ⟨buildText, hm, rfl, -⟩ := (label_eq_ok_iff admits_build).mp hbuild
    cases left with
    | nil =>
      cases h
      rw [List.append_nil]
      exact ⟨.parts ha hb hc hp hm, rfl⟩
    | cons d left => cases h
  · rintro ⟨@⟨major, minor, patch, a, b, c, pre, preText, build, buildText, ha, hb, hc, hp, hm⟩,
      rfl⟩
    have hstop : ∀ {p : Char → Bool}, p '+' = false → StopsAt p buildText := by
      intro p hp
      have := stopsAt_of_label hm hp (stopsAt_nil p)
      rwa [List.append_nil] at this
    have hbuild : after '+' (identifier .build) buildText = .ok (build, []) := by
      refine (label_eq_ok_iff admits_build).mpr ⟨buildText, hm, (List.append_nil _).symm, ?_⟩
      split
      · exact nofun
      · exact stopsAt_nil _
    have hpre : after '-' (identifier .preRelease) (preText ++ buildText) =
        .ok (pre, buildText) := by
      refine (label_eq_ok_iff admits_preRelease).mpr ⟨preText, hp, rfl, ?_⟩
      split
      · intro hh
        cases hstop (p := (· == '-')) rfl '-' hh
      · exact hstop rfl
    rw [Reader.bind_ok (number_eq_ok_iff.mpr ⟨a, ha, stopsAt_cons rfl _, rfl⟩),
      Reader.bind_ok (point_eq_ok_iff.mpr rfl),
      Reader.bind_ok (number_eq_ok_iff.mpr ⟨b, hb, stopsAt_cons rfl _, rfl⟩),
      Reader.bind_ok (point_eq_ok_iff.mpr rfl),
      Reader.bind_ok (number_eq_ok_iff.mpr ⟨c, hc, stopsAt_of_label hp rfl (hstop rfl), rfl⟩),
      Reader.bind_ok hpre, Reader.bind_ok hbuild]
    rfl

/-- A text is read as a version exactly when it spells one. -/
theorem read_eq_ok_iff {s : List Char} {v : Version} : read s = .ok v ↔ Spelled v s := by
  unfold read
  by_cases hs : s = []
  · rw [if_pos hs]
    refine iff_of_false nofun ?_
    rintro ⟨ha, -, -, -, -⟩
    exact ha.ne_nil (List.append_eq_nil_iff.mp hs).1
  · rw [if_neg hs]
    constructor
    · intro h
      rcases hw : whole s with e | ⟨w, rest⟩
      · rw [hw] at h
        cases h
      · rw [hw] at h
        cases h
        exact (whole_eq_ok_iff.mp hw).1
    · intro h
      rw [whole_eq_ok_iff.mpr ⟨h, rfl⟩]
      rfl

/-! ## Writing -/

theorem toString_of_spelled {n : Nat} {ds : List Char} (h : NumberSpelled n ds) :
    (toString n).toList = ds := by
  rw [Nat.toString_eq_ofList_toDigits, String.toList_ofList, ← h.value]
  exact toDigits_ofDigitChars h.ne_nil h.digits h.lone_zero

/-- Identifiers are written behind their mark, unless there are none. -/
theorem toList_label {mark : Char} {P : List Char → Prop} (hP : ∀ s, P s → s ≠ [])
    {x text : List Char} (h : LabelSpelled mark P x text) :
    (if x = [] then "" else String.singleton mark ++ .ofList x).toList = text := by
  cases h with
  | absent => rfl
  | @given ss hn h =>
    obtain ⟨s, ss, rfl⟩ := List.exists_cons_of_ne_nil hn
    rw [if_neg, String.toList_append, String.toList_singleton, String.toList_ofList]
    · rfl
    · intro he
      apply hP s (h s List.mem_cons_self)
      cases ss with
      | nil => simpa using he
      | cons t ss => simp at he

/-- A version is written as the text that spells it. -/
theorem text_of_spelled {v : Version} {s : List Char} (h : Spelled v s) : v.text.toList = s := by
  obtain ⟨ha, hb, hc, hp, hm⟩ := h
  have hpre := toList_label (fun _ h => h.ne_nil) hp
  have hbuild := toList_label (fun _ h => h.ne_nil) hm
  have hpoint : ".".toList = ['.'] := rfl
  unfold text
  rw [← hpre, ← hbuild]
  simp only [String.toList_append, toString_of_spelled ha, toString_of_spelled hb,
    toString_of_spelled hc, hpoint, List.append_assoc, List.singleton_append]
  rfl

/-- No text spells two versions. -/
theorem spelled_unique {v w : Version} {s : List Char} (hv : Spelled v s) (hw : Spelled w s) :
    v = w :=
  Except.ok.inj ((read_eq_ok_iff.mpr hv).symm.trans (read_eq_ok_iff.mpr hw))

/-! ## Order -/

/-- The numbers of a version, compared from the left. -/
def numbers (v : Version) : Nat ×ₗ Nat ×ₗ Nat := toLex (v.major, toLex (v.minor, v.patch))

/-- A version comes before a release if it has smaller numbers, or the same ones before the release
itself. -/
theorem isBefore_iff {v : Version} {major minor patch : Nat} :
    v.isBefore major minor patch = true ↔
      v.numbers < toLex (major, toLex (minor, patch)) ∨
        v.numbers = toLex (major, toLex (minor, patch)) ∧ v.preRelease ≠ [] := by
  unfold isBefore numbers
  rw [Prod.Lex.toLex_lt_toLex, Prod.Lex.toLex_lt_toLex, toLex_inj, Prod.mk.injEq, toLex_inj,
    Prod.mk.injEq]
  dsimp only
  by_cases ha : v.major = major
  · by_cases hb : v.minor = minor
    · by_cases hc : v.patch = patch <;> simp [ha, hb, hc]
    · simp [ha, hb]
  · simp [ha]

end AppVersions.Version
