-- The laws of the forms of a record in JSON: an object is read as the members that fields ask for,
-- in any order, and a list of values as the object that names them.
import AppVersions.Proofs.Json.Lists
import AppVersions.Proofs.Json.Members
import AppVersions.Proofs.Json.Record
import Mathlib.Data.List.Nodup

namespace AppVersions.Json

namespace Tree

variable {fs : List Field}

/-! ## Members that no field asks for -/

theorem member_of_unknown {key : String} (h : key ∉ fs.map (·.name)) (t : Tree)
    (slots : Slots fs) : t.member key fs slots = .ok slots := by
  induction fs with
  | nil => rfl
  | cons f fs ih =>
    rw [List.map_cons, List.mem_cons, not_or] at h
    obtain ⟨slot, slots⟩ := slots
    rw [member_further (Ne.symm h.1), ih h.2]
    rfl

theorem filled_filter (slots : Slots fs) (ms : List (String × Tree)) :
    filled slots (ms.filter fun m => m.1 ∈ fs.map (·.name)) = filled slots ms := by
  induction ms generalizing slots with
  | nil => rfl
  | cons m ms ih =>
    obtain ⟨key, t⟩ := m
    by_cases hk : key ∈ fs.map (·.name)
    · rw [List.filter_cons_of_pos (by simpa using hk), filled_cons, filled_cons]
      exact congrArg _ (funext ih)
    · rw [List.filter_cons_of_neg (by simpa using hk), filled_cons, member_of_unknown hk, ih]
      rfl

theorem filled_append (slots : Slots fs) (ms ns : List (String × Tree)) :
    filled slots (ms ++ ns) = filled slots ms >>= fun slots => filled slots ns :=
  List.foldlM_append

theorem toOption_fields (ms : List (String × Tree)) : (fields fs ms).toOption =
    (filled (Slots.none fs) ms).toOption.bind fun slots => (slots.finish fs).toOption := by
  unfold fields
  rw [toOption_bind]
  exact Option.bind_congr fun slots _ => toOption_mapError _ _

/-- What an object is read as depends on the members that fields ask for, and not on their order. -/
theorem toOption_fields_of_perm {ms ns : List (String × Tree)}
    (h : (ms.filter fun m => m.1 ∈ fs.map (·.name)).Perm
      (ns.filter fun m => m.1 ∈ fs.map (·.name))) :
    (fields fs ms).toOption = (fields fs ns).toOption := by
  rw [toOption_fields, toOption_fields, ← filled_filter _ ms, ← filled_filter _ ns,
    toOption_filled_of_perm h]

/-! ## Members that say what their absence says -/

/-- Members of other names leave a slot empty. -/
theorem vacant_of_member {t : Tree} {key name : String} (hne : key ≠ name)
    {slots after : Slots fs} (hv : slots.Vacant name fs) (hm : t.member key fs slots = .ok after) :
    after.Vacant name fs := by
  induction fs with
  | nil => trivial
  | cons f fs ih =>
    obtain ⟨slot, slots⟩ := slots
    obtain ⟨hslot, hv⟩ := hv
    by_cases hk : f.name = key
    · have hother : f.name ≠ name := fun hn => hne (hk.symm.trans hn)
      cases slot with
      | some v =>
        rw [member_twice hk] at hm
        cases hm
      | none =>
        rw [member_here hk] at hm
        cases hs : t.shaped f.shape with
        | error e =>
          rw [hs] at hm
          cases hm
        | ok v =>
          rw [hs] at hm
          cases hm
          exact ⟨fun hn => absurd hn hother, hv⟩
    · rw [member_further hk] at hm
      cases hr : t.member key fs slots with
      | error e =>
        rw [hr] at hm
        cases hm
      | ok rest =>
        rw [hr] at hm
        cases hm
        exact ⟨hslot, ih hv hr⟩

theorem vacant_of_filled {name : String} {ms : List (String × Tree)} (hne : ∀ m ∈ ms, m.1 ≠ name)
    {slots after : Slots fs} (hv : slots.Vacant name fs) (hm : filled slots ms = .ok after) :
    after.Vacant name fs := by
  induction ms generalizing slots with
  | nil =>
    cases hm
    exact hv
  | cons m ms ih =>
    obtain ⟨hkey, hothers⟩ := List.forall_mem_cons.mp hne
    rw [filled_cons] at hm
    cases ht : m.2.member m.1 fs slots with
    | error e =>
      rw [ht] at hm
      cases hm
    | ok next =>
      rw [ht] at hm
      exact ih hothers (vacant_of_member hkey hv ht) hm

/-- A value that a field takes for what it is without any may as well be left out. -/
theorem finish_of_vacant {t : Tree} {name : String}
    (ht : ∀ f ∈ fs, f.name = name → ∃ v, t.shaped f.shape = .ok v ∧ f.unnamed? = some v)
    {slots : Slots fs} (hv : slots.Vacant name fs) :
    ∃ after, t.member name fs slots = .ok after ∧ after.finish fs = slots.finish fs := by
  induction fs with
  | nil => exact ⟨(), rfl, rfl⟩
  | cons f fs ih =>
    obtain ⟨slot, slots⟩ := slots
    obtain ⟨hslot, hv⟩ := hv
    obtain ⟨hf, hothers⟩ := List.forall_mem_cons.mp ht
    by_cases hn : f.name = name
    · obtain ⟨v, hshaped, hunnamed⟩ := hf hn
      refine ⟨(some v, slots), ?_, ?_⟩
      · rw [hslot hn, member_here hn, hshaped]
        rfl
      · rw [hslot hn, Slots.finish_cons, Slots.finish_cons, hunnamed]
        rfl
    · obtain ⟨after, hmember, hfinish⟩ := ih hothers hv
      refine ⟨(slot, after), ?_, ?_⟩
      · rw [member_further hn, hmember]
        rfl
      · rw [Slots.finish_cons, Slots.finish_cons, hfinish]

theorem toOption_fields_of_absent {t : Tree} {name : String}
    (ht : ∀ f ∈ fs, f.name = name → ∃ v, t.shaped f.shape = .ok v ∧ f.unnamed? = some v)
    {front back : List (String × Tree)} (hne : ∀ m ∈ front ++ back, m.1 ≠ name) :
    (fields fs (front ++ (name, t) :: back)).toOption = (fields fs (front ++ back)).toOption := by
  -- the member is read last, when its slot is known to be empty
  have hperm : (front ++ (name, t) :: back).Perm ((front ++ back) ++ [(name, t)]) :=
    List.perm_middle.trans (List.perm_append_singleton _ _).symm
  have hlast : ∀ slots : Slots fs, filled slots ((front ++ back) ++ [(name, t)]) =
      filled slots (front ++ back) >>= t.member name fs := by
    intro slots
    rw [filled_append]
    refine congrArg _ (funext fun slots => ?_)
    rw [filled_cons]
    exact bind_pure _
  rw [toOption_fields, toOption_fields, toOption_filled_of_perm hperm, hlast, toOption_bind]
  cases hm : filled (Slots.none fs) (front ++ back) with
  | error e => rfl
  | ok slots =>
    have hv := vacant_of_filled hne (Slots.vacant_none name fs) hm
    obtain ⟨after, hmember, hfinish⟩ := finish_of_vacant ht hv
    show ((t.member name fs slots).toOption.bind _) = (slots.finish fs).toOption
    rw [hmember, ← hfinish]
    rfl

/-! ## Members that come twice -/

theorem toOption_member_repeated {key : String} (h : key ∈ fs.map (·.name)) (t u : Tree)
    (slots : Slots fs) : (t.member key fs slots >>= u.member key fs).toOption = none := by
  induction fs with
  | nil => cases h
  | cons f fs ih =>
    obtain ⟨slot, slots⟩ := slots
    by_cases hk : f.name = key
    · exact toOption_member_again hk t u slot slots
    · have h : key ∈ fs.map (·.name) := (List.mem_cons.mp h).resolve_left (Ne.symm hk)
      refine (toOption_member_further hk hk t u slot slots).trans ?_
      rw [ih h]
      rfl

theorem toOption_fields_of_repeated {key : String} (h : key ∈ fs.map (·.name)) (t u : Tree)
    (front middle back : List (String × Tree)) :
    (fields fs (front ++ (key, t) :: (middle ++ (key, u) :: back))).toOption = none := by
  have hperm : (front ++ (key, t) :: (middle ++ (key, u) :: back)).Perm
      ((key, t) :: (key, u) :: (front ++ (middle ++ back))) := by
    refine List.perm_middle.trans (.cons _ ?_)
    exact (List.perm_middle.append_left front).trans List.perm_middle
  have htwo : filled (Slots.none fs) ((key, t) :: (key, u) :: (front ++ (middle ++ back))) =
      (t.member key fs (Slots.none fs) >>= u.member key fs) >>=
        fun slots => filled slots (front ++ (middle ++ back)) := by
    rw [filled_cons, bind_assoc]
    exact congrArg _ (funext fun slots => filled_cons slots key u _)
  rw [toOption_fields, toOption_filled_of_perm hperm, htwo, toOption_bind,
    toOption_member_repeated h]
  rfl

/-! ## Lists -/

/-- The record of the values that the fields have where nothing is said of them. -/
def leftOut (value? : (f : Field) → Option f.shape.Value) : (fs : List Field) → Option (Record fs)
  | [] => some ()
  | f :: fs => (value? f).bind fun v => (leftOut value? fs).map fun r => (v, r)

/-- From any field on, those that a list is too short for are left out as if no member named them. -/
def EndsAlike : List Field → Prop
  | [] => True
  | f :: fs => leftOut Field.beyond? (f :: fs) = leftOut Field.unnamed? (f :: fs) ∧ EndsAlike fs

theorem EndsAlike.leftOut_eq (h : EndsAlike fs) :
    leftOut Field.beyond? fs = leftOut Field.unnamed? fs := by
  cases fs with
  | nil => rfl
  | cons f fs => exact h.1

theorem toOption_fields_nil (fs : List Field) :
    (fields fs []).toOption = leftOut Field.unnamed? fs := by
  rw [toOption_fields]
  show ((Slots.none fs).finish fs).toOption = _
  induction fs with
  | nil => rfl
  | cons f fs ih =>
    show (Slots.finish (f :: fs) (none, Slots.none fs)).toOption = _
    unfold leftOut
    rw [Slots.finish_cons, Option.none_or, ← ih]
    cases f.unnamed? with
    | none => rfl
    | some v => exact toOption_map _ _

theorem toOption_inOrder_nil (name : String) (count index : Nat) (fs : List Field) :
    (inOrder name count index fs []).toOption = leftOut Field.beyond? fs := by
  induction fs generalizing index with
  | nil => rfl
  | cons f fs ih =>
    unfold inOrder leftOut
    rw [← ih (index + 1)]
    cases f.beyond? with
    | none => rfl
    | some v => exact toOption_map _ _

/-- The first field, where no other member has its name. -/
theorem fields_cons {f : Field} {ms : List (String × Tree)} (h : ∀ m ∈ ms, f.name ≠ m.1) (t : Tree)
    (fs : List Field) : fields (f :: fs) ((f.name, t) :: ms) =
      t.shaped f.shape >>= fun v => (fields fs ms).map fun r => (v, r) := by
  have hfirst : t.member f.name (f :: fs) (Slots.none (f :: fs)) =
      (t.shaped f.shape).map fun v => (some v, Slots.none fs) := member_here rfl t fs _
  unfold fields
  rw [filled_cons, hfirst]
  cases t.shaped f.shape with
  | error e => rfl
  | ok v =>
    show (@filled (f :: fs) (some v, Slots.none fs) ms >>= _) = _
    rw [filled_further h]
    cases filled (Slots.none fs) ms with
    | error e => rfl
    | ok slots =>
      show ((slots.finish fs).map fun r => (v, r)).mapError Fault.mismatch =
        ((slots.finish fs).mapError Fault.mismatch).map fun r => (v, r)
      cases slots.finish fs <;> rfl

/-- The first field, where no member has its name and it needs none. -/
theorem fields_cons_unnamed {f : Field} {ms : List (String × Tree)} (h : ∀ m ∈ ms, f.name ≠ m.1)
    {v : f.shape.Value} (hv : f.unnamed? = some v) (fs : List Field) :
    fields (f :: fs) ms = (fields fs ms).map fun r => (v, r) := by
  unfold fields
  show (@filled (f :: fs) (none, Slots.none fs) ms >>= _) = _
  rw [filled_further h]
  cases filled (Slots.none fs) ms with
  | error e => rfl
  | ok slots =>
    show (Slots.finish (f :: fs) (none, slots)).mapError Fault.mismatch =
      ((slots.finish fs).mapError Fault.mismatch).map fun r => (v, r)
    rw [Slots.finish_cons, Option.none_or, hv]
    cases slots.finish fs <;> rfl

/-- A list of values is read as the object that names them. -/
theorem toOption_inOrder {ts : List Tree} (hn : (fs.map (·.name)).Nodup) (he : EndsAlike fs)
    (hl : ts.length ≤ fs.length) (name : String) (count index : Nat) :
    (inOrder name count index fs ts).toOption =
      (fields fs ((fs.map (·.name)).zip ts)).toOption := by
  induction fs generalizing ts index with
  | nil =>
    cases ts with
    | nil => rfl
    | cons t ts => cases hl
  | cons f fs ih =>
    cases ts with
    | nil => rw [List.zip_nil_right, toOption_inOrder_nil, toOption_fields_nil, he.leftOut_eq]
    | cons t ts =>
      rw [List.map_cons, List.nodup_cons] at hn
      have hother : ∀ m ∈ (fs.map (·.name)).zip ts, f.name ≠ m.1 := by
        rintro ⟨key, u⟩ hm rfl
        exact hn.1 (List.of_mem_zip hm).1
      rw [List.map_cons, List.zip_cons_cons, fields_cons hother]
      unfold inOrder
      rw [toOption_bind]
      refine Eq.trans ?_ (toOption_bind _ _).symm
      refine Option.bind_congr fun v _ => ?_
      have hrest := ih hn.2 he.2 (Nat.le_of_succ_le_succ hl) (index + 1)
      exact (toOption_map _ _).trans ((congrArg _ hrest).trans (toOption_map _ _).symm)

end Tree

/-! ## Texts -/

/-- For every value a tree that it is read as. -/
theorem exists_data : ∃ data : List Char → Tree, ∀ v, WellFormed v → Reads (data v) v := by
  classical
  refine ⟨fun v => if h : WellFormed v then (exists_reads h).choose else .null, fun v h => ?_⟩
  dsimp only
  rw [dif_pos h]
  exact (exists_reads h).choose_spec

/-- Any values may stand under any keys, and in a list. -/
theorem exists_named (vs : List (String × List Char)) (first : Bool) :
    ∃ cs, Named StringSpelled first vs cs := by
  have hnone : Blanks [] := List.forall_mem_nil _
  induction vs generalizing first with
  | nil => exact ⟨_, .close hnone⟩
  | cons v vs ih =>
    obtain ⟨cs, hcs⟩ := ih false
    cases first with
    | true => exact ⟨_, .cons (.first hnone) (stringSpelled_quote v.1) hnone hnone hcs⟩
    | false => exact ⟨_, .cons (.next hnone hnone) (stringSpelled_quote v.1) hnone hnone hcs⟩

theorem exists_objectText {vs : List (String × List Char)} (h : ∀ v ∈ vs, WellFormed v.2) :
    ∃ s, ObjectText vs s := by
  have hnone : Blanks [] := List.forall_mem_nil _
  obtain ⟨cs, hcs⟩ := exists_named vs true
  exact ⟨_, .object hnone hcs h hnone String.toList_ofList⟩

theorem exists_listed (vs : List (List Char)) (first : Bool) : ∃ cs, Listed first vs cs := by
  have hnone : Blanks [] := List.forall_mem_nil _
  induction vs generalizing first with
  | nil => exact ⟨_, .close hnone⟩
  | cons v vs ih =>
    obtain ⟨cs, hcs⟩ := ih false
    cases first with
    | true => exact ⟨_, .cons (.first hnone) hcs⟩
    | false => exact ⟨_, .cons (.next hnone hnone) hcs⟩

theorem exists_listText {vs : List (List Char)} (h : ∀ v ∈ vs, WellFormed v) :
    ∃ s, ListText vs s := by
  have hnone : Blanks [] := List.forall_mem_nil _
  obtain ⟨cs, hcs⟩ := exists_listed vs true
  exact ⟨_, .list hnone hcs h hnone String.toList_ofList⟩

section Data

variable {α : Type} {schema : Schema α} {data : List Char → Tree}
  (hd : ∀ v, WellFormed v → Reads (data v) v)

include hd

theorem toOption_decode_of_object {vs : List (String × List Char)} {s : String}
    (h : ObjectText vs s) : (decode schema s).toOption =
      (Tree.fields schema.fields (vs.map fun v => (v.1, data v.2))).toOption.map
        schema.ofRecord := by
  have hv : ∀ v ∈ vs, WellFormed v.2 := by
    cases h with | object _ _ hv _ _ => exact hv
  have hm : List.Forall₂ (fun m v => m.1 = v.1 ∧ Reads m.2 v.2)
      (vs.map fun v => (v.1, data v.2)) vs := by
    rw [List.forall₂_map_left_iff, List.forall₂_same]
    exact fun v hmem => ⟨rfl, hd v.2 (hv v hmem)⟩
  rw [decode_of_object schema h hm, Tree.toRecord, toOption_map]

theorem toOption_decode_of_list {vs : List (List Char)} {s : String} (h : ListText vs s)
    (hl : vs.length ≤ schema.fields.length) : (decode schema s).toOption =
      (Tree.inOrder schema.name schema.fields.length 0 schema.fields (vs.map data)).toOption.map
        schema.ofRecord := by
  have hv : ∀ v ∈ vs, WellFormed v := by
    cases h with | list _ _ hv _ _ => exact hv
  have hm : List.Forall₂ Reads (vs.map data) vs := by
    rw [List.forall₂_map_left_iff, List.forall₂_same]
    exact fun v hmem => hd v (hv v hmem)
  rw [decode_of_list schema h hm (by rwa [List.length_map]), toOption_map]

/-- Null is read as nothing where there may be nothing. -/
theorem shaped_null (k : Kind) : (data "null".toList).shaped (.optional k) = .ok none := by
  have hdata := (hd _ .null).shaped (.optional k) [] nofun
  have hnull := (reads_of_spelled .null).shaped (.optional k) [] nofun
  have he := hdata.symm.trans hnull
  cases hx : (data "null".toList).shaped (.optional k) with
  | error e =>
    rw [hx] at he
    cases he
  | ok v =>
    rw [hx] at he
    cases he
    rfl

end Data

/-- Both texts are read as the same value, or neither is read. -/
def ReadAlike {α : Type} (schema : Schema α) (s u : String) : Prop :=
  (decode schema s).toOption = (decode schema u).toOption

/-- A record is read alike in all its forms: only the members that fields ask for count, in any
order, an optional one may be null or absent, and a list gives the first fields their values as an
object does that names them. No object with two members for one field is read. -/
structure FormsAgree {α : Type} (schema : Schema α) : Prop where
  ordered : ∀ {vs ws : List (String × List Char)} {s u : String}, ObjectText vs s →
    ObjectText ws u → (vs.filter fun v => v.1 ∈ schema.fields.map (·.name)).Perm
      (ws.filter fun w => w.1 ∈ schema.fields.map (·.name)) → ReadAlike schema s u
  omitted : ∀ {f : Field} {k : Kind} {front back : List (String × List Char)} {s u : String},
    f ∈ schema.fields → f.shape = .optional k → (∀ v ∈ front ++ back, v.1 ≠ f.name) →
    ObjectText (front ++ (f.name, "null".toList) :: back) s → ObjectText (front ++ back) u →
    ReadAlike schema s u
  listed : ∀ {vs : List (List Char)} {s u : String}, vs.length ≤ schema.fields.length →
    ListText vs s → ObjectText ((schema.fields.map (·.name)).zip vs) u → ReadAlike schema s u
  repeated : ∀ {key : String} {v w : List Char} {front middle back : List (String × List Char)}
    {s : String}, key ∈ schema.fields.map (·.name) →
    ObjectText (front ++ (key, v) :: (middle ++ (key, w) :: back)) s →
    ∃ fault, decode schema s = .error fault

theorem formsAgree {α : Type} (schema : Schema α) (he : Tree.EndsAlike schema.fields) :
    FormsAgree schema := by
  obtain ⟨data, hd⟩ := exists_data
  constructor
  · intro vs ws s u hs hu hp
    unfold ReadAlike
    rw [toOption_decode_of_object hd hs, toOption_decode_of_object hd hu]
    refine congrArg _ (Tree.toOption_fields_of_perm ?_)
    rw [List.filter_map, List.filter_map]
    exact hp.map _
  · intro f k front back s u hf hk hne hs hu
    unfold ReadAlike
    rw [toOption_decode_of_object hd hs, toOption_decode_of_object hd hu, List.map_append,
      List.map_append, List.map_cons]
    refine congrArg _ (Tree.toOption_fields_of_absent ?_ ?_)
    · intro g hg hname
      obtain rfl : g = f := List.inj_on_of_nodup_map schema.names_nodup hg hf hname
      obtain ⟨name, shape, defaults⟩ := g
      cases hk
      exact ⟨none, shaped_null hd k, rfl⟩
    · rw [← List.map_append]
      exact List.forall_mem_map.mpr hne
  · intro vs s u hl hs hu
    unfold ReadAlike
    rw [toOption_decode_of_list hd hs hl, toOption_decode_of_object hd hu,
      Tree.toOption_inOrder schema.names_nodup he (by rwa [List.length_map]), List.zip_map_right]
    rfl
  · intro key v w front middle back s hkey hs
    refine toOption_eq_none.mp ?_
    rw [toOption_decode_of_object hd hs, List.map_append, List.map_cons, List.map_append,
      List.map_cons, Tree.toOption_fields_of_repeated hkey]
    rfl

/-- Selections, listings, options and captures are read alike in all their forms. -/
theorem every_model_is_read_alike_in_all_its_forms :
    FormsAgree Selection.schema ∧ FormsAgree Listing.schema ∧ FormsAgree GcloudOptions.schema ∧
      FormsAgree Capture.schema := by
  refine ⟨formsAgree _ ?_, formsAgree _ ?_, formsAgree _ ?_, formsAgree _ ?_⟩
  · exact ⟨rfl, rfl, rfl, trivial⟩
  · exact ⟨rfl, rfl, rfl, trivial⟩
  · exact ⟨rfl, rfl, rfl, rfl, rfl, rfl, rfl, trivial⟩
  · exact ⟨rfl, rfl, rfl, rfl, rfl, rfl, trivial⟩

/-- A service that is null and a note that is half of a pair, and no text, may as well be left out,
and the versions may stand alone in a list. -/
theorem a_selection_of_one_version_in_three_forms :
    let versions : List Char := ['[', '"', 'v', '"', ']']
    let note : List Char := ['"', '\\', 'u', 'd', '8', '3', 'd', '"']
    ∃ long short listed, ObjectText [("note", note), ("service", "null".toList),
        ("versions", versions)] long ∧
      ObjectText [("versions", versions)] short ∧ ListText [versions] listed ∧
      ReadAlike Selection.schema long short ∧ ReadAlike Selection.schema listed short := by
  intro versions note
  have hversions : WellFormed versions := by
    have hone : WellFormed ['"', 'v', '"'] :=
      .text (.quoted (.plain (by decide) (by decide) (by decide) .close))
    have hlisted : Listed true [['"', 'v', '"']] ['"', 'v', '"', ']'] :=
      .cons (.first (List.forall_mem_nil _)) (.close (List.forall_mem_nil _))
    exact .list hlisted (List.forall_mem_singleton.mpr hone)
  have hnote : WellFormed note := .text (.quoted (.numbered (.digits rfl rfl rfl rfl) .close))
  have hone : ∀ v ∈ [("versions", versions)], WellFormed v.2 :=
    List.forall_mem_singleton.mpr hversions
  have htwo : ∀ v ∈ [("note", note), ("versions", versions)], WellFormed v.2 :=
    List.forall_mem_cons.mpr ⟨hnote, hone⟩
  have hthree : ∀ v ∈ [("note", note), ("service", "null".toList), ("versions", versions)],
      WellFormed v.2 := List.forall_mem_cons.mpr ⟨hnote, List.forall_mem_cons.mpr ⟨.null, hone⟩⟩
  obtain ⟨long, hlong⟩ := exists_objectText hthree
  obtain ⟨noted, hnoted⟩ := exists_objectText htwo
  obtain ⟨short, hshort⟩ := exists_objectText hone
  obtain ⟨listed, hlisted⟩ := exists_listText (List.forall_mem_singleton.mpr hversions)
  obtain ⟨⟨hordered, homitted, hlist, -⟩, -, -, -⟩ := every_model_is_read_alike_in_all_its_forms
  refine ⟨long, short, listed, hlong, hshort, hlisted, ?_, hlist (by decide) hlisted hshort⟩
  have hnull : ReadAlike Selection.schema long noted :=
    @homitted ⟨"service", .optional .text, true⟩ .text [("note", note)] [("versions", versions)] _ _
      (by decide) rfl (by simp) hlong hnoted
  exact hnull.trans (hordered hnoted hshort (by decide))

end AppVersions.Json
