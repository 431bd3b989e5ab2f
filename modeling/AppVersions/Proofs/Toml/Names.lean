-- The law of tables: no step of building a document writes a name twice, so that every entry of the
-- root table has a name of its own.
import AppVersions.Toml.Document

namespace AppVersions.Toml

namespace Entries

def names (es : Entries) : List String := es.map fun (k, _) => k.name

/-- No two entries have one name. -/
def Distinct (es : Entries) : Prop := es.names.Nodup

theorem distinct_nil : Distinct [] := List.nodup_nil

/-! ## Entries -/

theorem not_mem_names_of_get {es : Entries} {name : String} (h : es.get? name = none) :
    name ∉ es.names := by
  unfold get? at h
  rw [Option.map_eq_none_iff, List.find?_eq_none] at h
  rintro hm
  obtain ⟨⟨k, n⟩, he, rfl⟩ := List.mem_map.mp hm
  exact h _ he (beq_self_eq_true k.name)

theorem distinct_add {es more : Entries} {k : Key} {n : Node} (h : Distinct es)
    (ha : es.add? k n = some more) : Distinct more := by
  unfold add? at ha
  split at ha
  · cases ha
  · rename_i hg
    cases ha
    have hnot := not_mem_names_of_get (Option.not_isSome_iff_eq_none.mp hg)
    unfold Distinct names
    rw [List.map_append, List.map_singleton]
    refine List.nodup_append.mpr ⟨h, List.pairwise_singleton _ _, ?_⟩
    rintro a ha _ hb rfl
    rw [List.mem_singleton.mp hb] at ha
    exact hnot ha

theorem names_replace (es : Entries) (name : String) (n : Node) :
    (es.replace name n).names = es.names := by
  unfold replace names
  rw [List.map_map]
  refine List.map_congr_left ?_
  rintro ⟨k, old⟩ _
  dsimp only [Function.comp_apply]
  split <;> rfl

theorem distinct_replace {es : Entries} (h : Distinct es) (name : String) (n : Node) :
    Distinct (es.replace name n) := by
  unfold Distinct
  rw [names_replace]
  exact h

theorem distinct_remove {es : Entries} (h : Distinct es) (name : String) :
    Distinct (es.remove name) :=
  List.Pairwise.sublist (List.Sublist.map _ List.filter_sublist) h

/-! ## Tables inside -/

/-- A change keeps the names apart. -/
def Keeps (change : Change) : Prop :=
  ∀ (origin : Origin) (es more : Entries), Distinct es → change origin es = some more →
    Distinct more

/-- What happens inside a table adds at most one name outside, and only one that was not there. -/
theorem distinct_changeAt {change : Change} (hc : Keeps change) (route : Route) (path : List Key)
    {origin : Origin} {es more : Entries} (h : Distinct es)
    (hm : changeAt route change path origin es = some more) : Distinct more := by
  cases path with
  | nil => exact hc origin es more h hm
  | cons k path =>
    unfold changeAt at hm
    split at hm
    · obtain ⟨inner, _, ha⟩ := Option.bind_eq_some_iff.mp hm
      exact distinct_add h ha
    · split at hm
      · obtain ⟨inner, _, ha⟩ := Option.bind_eq_some_iff.mp hm
        cases ha
        exact distinct_replace h _ _
      · cases hm
    · obtain ⟨elements, _, ha⟩ := Option.bind_eq_some_iff.mp hm
      cases ha
      exact distinct_replace h _ _
    · cases hm

theorem keeps_add (k : Key) (n : Node) : Keeps fun _ es => es.add? k n :=
  fun _ _ _ h ha => distinct_add h ha

theorem distinct_addValue {es more : Entries} {origin : Origin} {path : List Key} {k : Key}
    {n : Node} (h : Distinct es) (ha : es.addValue origin path k n = some more) :
    Distinct more := by
  refine distinct_changeAt ?_ .dottedKey path h ha
  intro origin es more h ha
  dsimp only at ha
  split at ha
  · cases ha
  · exact distinct_add h ha

theorem distinct_closeTable {es more : Entries} {path : List Key} {k : Key} {n : Node}
    (h : Distinct es) (ha : es.closeTable path k n = some more) : Distinct more :=
  distinct_changeAt (keeps_add k n) .header path h ha

theorem distinct_closeElement {es more : Entries} {path : List Key} {k : Key} {n : Node}
    (h : Distinct es) (ha : es.closeElement path k n = some more) : Distinct more := by
  refine distinct_changeAt ?_ .header path h ha
  intro origin es more h ha
  dsimp only at ha
  split at ha
  · exact distinct_add h ha
  · cases ha
    exact distinct_replace h _ _
  · cases ha

end Entries

/-! ## Documents -/

namespace Draft

open Entries

theorem distinct_close {d : Draft} {es : Entries} (h : d.root.Distinct) (hc : d.close = some es) :
    es.Distinct := by
  unfold close at hc
  split at hc
  · cases hc
    exact h
  · dsimp only at hc
    split at hc
    · exact distinct_closeElement h hc
    · exact distinct_closeTable h hc

theorem distinct_takeOut {path : List Key} {name : String} {root rest entries : Entries}
    (h : root.Distinct) (ht : openTable.takeOut path name root = some (entries, rest)) :
    rest.Distinct := by
  obtain ⟨looked, _, ht⟩ := Option.bind_eq_some_iff.mp ht
  obtain ⟨left, hr, ht⟩ := Option.bind_eq_some_iff.mp ht
  cases ht
  refine distinct_changeAt ?_ .header path h hr
  rintro origin es more h ⟨⟩
  exact distinct_remove h name

theorem distinct_add {d e : Draft} {s : Statement} (h : d.root.Distinct) (ha : d.add s = some e) :
    e.root.Distinct := by
  cases s with
  | assign path k n =>
    unfold add assign at ha
    dsimp only at ha
    split at ha
    · obtain ⟨root, hr, ha⟩ := Option.bind_eq_some_iff.mp ha
      cases ha
      exact distinct_addValue h hr
    · obtain ⟨entries, _, ha⟩ := Option.bind_eq_some_iff.mp ha
      cases ha
      exact h
  | openTable path k span =>
    obtain ⟨root, hc, ha⟩ := Option.bind_eq_some_iff.mp ha
    obtain ⟨⟨entries, rest⟩, ht, ha⟩ := Option.bind_eq_some_iff.mp ha
    cases ha
    exact distinct_takeOut (distinct_close h hc) ht
  | openElement path k span =>
    obtain ⟨root, hc, ha⟩ := Option.bind_eq_some_iff.mp ha
    obtain ⟨rest, hr, ha⟩ := Option.bind_eq_some_iff.mp ha
    cases ha
    refine distinct_changeAt ?_ .header path (distinct_close h hc) hr
    intro origin es more h ha
    dsimp only at ha
    split at ha
    · exact Entries.distinct_add h ha
    · cases ha
      exact h
    · cases ha

theorem distinct_foldlM {ss : List Statement} {d e : Draft} (h : d.root.Distinct)
    (hf : ss.foldlM Draft.add d = some e) : e.root.Distinct := by
  induction ss generalizing d with
  | nil =>
    cases hf
    exact h
  | cons s ss ih =>
    rw [List.foldlM_cons] at hf
    obtain ⟨next, ha, hf⟩ := Option.bind_eq_some_iff.mp hf
    exact ih (distinct_add h ha) hf

end Draft

/-- Every entry of the root table has a name of its own. -/
theorem distinct_of_parse {s : String} {es : Entries} (h : parse s = some es) : es.Distinct := by
  unfold parse at h
  split at h
  · obtain ⟨d, hf, hc⟩ := Option.bind_eq_some_iff.mp h
    exact Draft.distinct_close (Draft.distinct_foldlM Entries.distinct_nil hf) hc
  · cases h

end AppVersions.Toml
