-- The laws of members: they fill the same slots in any order, and what refuses them is their data
-- or a number that is too large.
import AppVersions.Proofs.Json.Reading
import AppVersions.Proofs.Outcomes

namespace AppVersions

/-! ## Empty slots -/

/-- The slot of the field with this name is still empty, if there is such a field. -/
def Slots.Vacant (name : String) : (fs : List Field) → Slots fs → Prop
  | [], _ => True
  | f :: fs, (slot, slots) => (f.name = name → slot = .none) ∧ Slots.Vacant name fs slots

theorem Slots.vacant_none (name : String) (fs : List Field) : Slots.Vacant name fs (.none fs) := by
  induction fs with
  | nil => trivial
  | cons f fs ih => exact ⟨fun _ => rfl, ih⟩

theorem Slots.finish_cons {f : Field} {fs : List Field} (slot : Option f.shape.Value)
    (slots : Slots fs) : Slots.finish (f :: fs) (slot, slots) =
      match slot.or f.unnamed? with
      | .none => .error (.missing f.name)
      | some v => (Slots.finish fs slots).map fun r => (v, r) :=
  rfl

namespace Json

namespace Tree

/-! ## Lists -/

theorem toOption_many (k : Kind) {t : Tree} (h : ∀ ts, t ≠ .list ts) :
    (t.many k).toOption = none := by
  rw [many_of_no_list k h, toOption_bind]
  exact Option.bind_fun_none _

/-! ## The order of members -/

/-- The first of two members that fills a slot of its own leaves the other one what it finds. -/
theorem toOption_member_here {f : Field} {key other : String} (hk : f.name = key)
    (ho : f.name ≠ other) (t u : Tree) {fs : List Field} (slot : Option f.shape.Value)
    (slots : Slots fs) :
    (t.member key (f :: fs) (slot, slots) >>= u.member other (f :: fs)).toOption =
      (u.member other (f :: fs) (slot, slots) >>= t.member key (f :: fs)).toOption := by
  cases slot with
  | some v =>
    rw [member_twice hk, member_further ho]
    cases u.member other fs slots with
    | error e => rfl
    | ok slots => exact (congrArg Except.toOption (member_twice hk t v slots)).symm
  | none =>
    rw [member_here hk, member_further ho]
    cases ht : t.shaped f.shape with
    | error e =>
      cases u.member other fs slots with
      | error e => rfl
      | ok slots =>
        refine Eq.trans ?_ (congrArg Except.toOption (member_here hk t fs slots)).symm
        rw [ht]
        rfl
    | ok v =>
      refine Eq.trans (congrArg Except.toOption (member_further ho u (some v) slots)) ?_
      cases u.member other fs slots with
      | error e => rfl
      | ok slots =>
        refine Eq.trans ?_ (congrArg Except.toOption (member_here hk t fs slots)).symm
        rw [ht]
        rfl

/-- No second member fills a slot. -/
theorem toOption_member_again {f : Field} {key : String} (hk : f.name = key) (t u : Tree)
    {fs : List Field} (slot : Option f.shape.Value) (slots : Slots fs) :
    (t.member key (f :: fs) (slot, slots) >>= u.member key (f :: fs)).toOption = none := by
  cases slot with
  | some v =>
    rw [member_twice hk]
    rfl
  | none =>
    rw [member_here hk]
    cases t.shaped f.shape with
    | error e => rfl
    | ok v => exact congrArg Except.toOption (member_twice hk u v slots)

theorem toOption_member_further {f : Field} {key other : String} (hk : f.name ≠ key)
    (ho : f.name ≠ other) (t u : Tree) {fs : List Field} (slot : Option f.shape.Value)
    (slots : Slots fs) :
    (t.member key (f :: fs) (slot, slots) >>= u.member other (f :: fs)).toOption =
      (t.member key fs slots >>= u.member other fs).toOption.map fun slots => (slot, slots) := by
  rw [member_further hk]
  cases t.member key fs slots with
  | error e => rfl
  | ok slots =>
    refine Eq.trans (congrArg Except.toOption (member_further ho u slot slots)) ?_
    exact toOption_map _ _

/-- Which of two members comes first makes no difference. -/
theorem toOption_member_comm (key other : String) (t u : Tree) (fs : List Field)
    (slots : Slots fs) : (t.member key fs slots >>= u.member other fs).toOption =
      (u.member other fs slots >>= t.member key fs).toOption := by
  induction fs with
  | nil => rfl
  | cons f fs ih =>
    obtain ⟨slot, slots⟩ := slots
    by_cases hk : f.name = key
    · by_cases ho : f.name = other
      · obtain rfl := hk.symm.trans ho
        exact (toOption_member_again hk t u slot slots).trans
          (toOption_member_again hk u t slot slots).symm
      · exact toOption_member_here hk ho t u slot slots
    · by_cases ho : f.name = other
      · exact (toOption_member_here ho hk u t slot slots).symm
      · have hs := congrArg (Option.map fun slots => (slot, slots)) (ih slots)
        exact (toOption_member_further hk ho t u slot slots).trans
          (hs.trans (toOption_member_further ho hk u t slot slots).symm)

/-- The members fill the same slots in any order. -/
theorem toOption_filled_of_perm {ms ns : List (String × Tree)} (h : ms.Perm ns) {fs : List Field}
    (slots : Slots fs) : (filled slots ms).toOption = (filled slots ns).toOption := by
  induction h generalizing slots with
  | nil => rfl
  | cons m _ ih =>
    rw [filled_cons, filled_cons, toOption_bind, toOption_bind]
    exact Option.bind_congr fun slots _ => ih slots
  | swap m n ms =>
    obtain ⟨key, t⟩ := m
    obtain ⟨other, u⟩ := n
    have htwo : ∀ (k l : String) (v w : Tree), filled slots ((k, v) :: (l, w) :: ms) =
        (v.member k fs slots >>= w.member l fs) >>= fun slots => filled slots ms := by
      intro k l v w
      rw [filled_cons, bind_assoc]
      refine congrArg _ (funext fun slots => ?_)
      rw [filled_cons]
    have hcomm := congrArg (Option.bind · fun slots => (filled slots ms).toOption)
      (toOption_member_comm other key u t fs slots)
    rw [htwo, htwo]
    exact (toOption_bind _ _).trans (hcomm.trans (toOption_bind _ _).symm)
  | trans _ _ ih₁ ih₂ => exact (ih₁ slots).trans (ih₂ slots)

end Tree

/-! ## Refusals -/

/-- The values that a field of this shape looks at. -/
def Tree.looked : Shape → Tree → List Tree
  | .many _, .list ts => ts
  | _, t => [t]

/-- The values that fields look at in a member. -/
def Tree.seenIn (fs : List Field) (m : String × Tree) : List Tree :=
  fs.flatMap fun f => if f.name = m.1 then m.2.looked f.shape else []

/-- How well-formed JSON is refused: its data is, or one of the numbers that are looked at has
digits that come to an infinite value. -/
inductive Refusal (ts : List Tree) : Fault → Prop
  | mismatch (cause : Mismatch) : Refusal ts (.mismatch cause)
  | infinite {l : NumberLiteral} (hl : .number l ∈ ts) (hv : l.value = .error .malformed) :
      Refusal ts .malformed

theorem Refusal.mono {ts us : List Tree} {fault : Fault} (h : Refusal ts fault) (hs : ts ⊆ us) :
    Refusal us fault := by
  cases h with
  | mismatch cause => exact .mismatch cause
  | infinite hl hv => exact .infinite (hs hl) hv

theorem refusal_of_mapError {α : Type} {x : Except Mismatch α} {fault : Fault}
    (h : x.mapError Fault.mismatch = .error fault) (ts : List Tree) : Refusal ts fault := by
  obtain ⟨cause, rfl⟩ := error_of_mapError h
  exact .mismatch cause

theorem refusal_of_found {t : Tree} {fault : Fault} (h : t.found = .error fault) :
    Refusal [t] fault := by
  cases t with
  | number l =>
    obtain ⟨m, hv⟩ | ⟨text, hv⟩ | hv := integer_or_isReal l
    · cases hv.symm.trans h
    · cases hv.symm.trans h
    · cases hv.symm.trans h
      exact .infinite List.mem_cons_self hv
  | null | flag _ | text _ | list _ | object _ => cases h

theorem refusal_of_single {k : Kind} {t : Tree} {fault : Fault} (h : t.single k = .error fault) :
    Refusal [t] fault := by
  obtain hf | ⟨found, _, h⟩ := error_of_bind h
  · exact refusal_of_found hf
  · exact refusal_of_mapError h _

theorem refusal_of_optional {k : Kind} {t : Tree} {fault : Fault}
    (h : t.optional k = .error fault) : Refusal [t] fault := by
  by_cases hn : t.found = .ok .null
  · unfold Tree.optional at h
    rw [hn] at h
    cases h
  · rw [Tree.optional_eq hn] at h
    exact refusal_of_single (error_of_map h)

theorem refusal_of_mapM {k : Kind} {ts : List Tree} {fault : Fault}
    (h : ts.mapM (Tree.single k) = .error fault) : Refusal ts fault := by
  induction ts with
  | nil => cases h
  | cons t ts ih =>
    rw [List.mapM_cons] at h
    obtain ht | ⟨v, _, h⟩ := error_of_bind h
    · exact (refusal_of_single ht).mono (List.cons_subset_cons t (List.nil_subset ts))
    · obtain hs | ⟨vs, _, h⟩ := error_of_bind h
      · exact (ih hs).mono (List.subset_cons_self t ts)
      · cases h

theorem refusal_of_shaped {s : Shape} {t : Tree} {fault : Fault} (h : t.shaped s = .error fault) :
    Refusal (t.looked s) fault := by
  cases s with
  | one k => exact refusal_of_single h
  | optional k => exact refusal_of_optional h
  | many k =>
    by_cases hlist : ∃ ts, t = .list ts
    · obtain ⟨ts, rfl⟩ := hlist
      exact refusal_of_mapM h
    · have hne : ∀ ts, t ≠ .list ts := fun ts hts => hlist ⟨ts, hts⟩
      have hlooked : t.looked (.many k) = [t] := by
        cases t with
        | list ts => exact absurd rfl (hne ts)
        | null | flag _ | number _ | text _ | object _ => rfl
      have h : t.many k = .error fault := h
      rw [Tree.many_of_no_list k hne] at h
      rw [hlooked]
      obtain hf | ⟨found, _, h⟩ := error_of_bind h
      · exact refusal_of_found hf
      · cases h
        exact .mismatch _

theorem refusal_of_member {key : String} {t : Tree} {fs : List Field} {slots : Slots fs}
    {fault : Fault} (h : t.member key fs slots = .error fault) :
    Refusal (Tree.seenIn fs (key, t)) fault := by
  induction fs with
  | nil => cases h
  | cons f fs ih =>
    obtain ⟨slot, slots⟩ := slots
    unfold Tree.seenIn
    rw [List.flatMap_cons]
    by_cases hk : f.name = key
    · rw [if_pos hk]
      cases slot with
      | some v =>
        rw [Tree.member_twice hk] at h
        cases h
        exact .mismatch _
      | none =>
        rw [Tree.member_here hk] at h
        exact (refusal_of_shaped (error_of_map h)).mono (List.subset_append_left _ _)
    · rw [Tree.member_further hk] at h
      exact (ih (error_of_map h)).mono (List.subset_append_right _ _)

theorem refusal_of_filled {fs : List Field} {ms : List (String × Tree)} {slots : Slots fs}
    {fault : Fault} (h : Tree.filled slots ms = .error fault) :
    Refusal (ms.flatMap (Tree.seenIn fs)) fault := by
  induction ms generalizing slots with
  | nil => cases h
  | cons m ms ih =>
    rw [Tree.filled_cons] at h
    rw [List.flatMap_cons]
    obtain hm | ⟨slots, _, h⟩ := error_of_bind h
    · exact (refusal_of_member hm).mono (List.subset_append_left _ _)
    · exact (ih h).mono (List.subset_append_right _ _)

theorem refusal_of_toRecord {α : Type} {schema : Schema α} {ms : List (String × Tree)}
    {fault : Fault} (h : Tree.toRecord schema ms = .error fault) :
    Refusal (ms.flatMap (Tree.seenIn schema.fields)) fault := by
  obtain hf | ⟨slots, _, h⟩ := error_of_bind (error_of_map h)
  · exact refusal_of_filled hf
  · exact refusal_of_mapError h _

end Json

end AppVersions
