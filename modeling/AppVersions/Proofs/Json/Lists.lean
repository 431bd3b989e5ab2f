-- The laws of records as lists: the values are read into the fields in order, and the fields that
-- the list is too short for take their defaults, as far as they have any.
import AppVersions.Proofs.Json.Reading

namespace AppVersions.Json

open AppVersions.Reader (Answers bind_ok bind_error)

/-! ## What lists of values say -/

/-- The fields that the values of a list fill, one after the other. -/
def Tree.inOrder (name : String) (count : Nat) :
    Nat → (fs : List Field) → List Tree → Except Fault (Record fs)
  | _, [], _ => .ok ()
  | index, f :: fs, [] =>
    match f.beyond? with
    | some v => (inOrder name count (index + 1) fs []).map fun r => (v, r)
    | none => .error (.mismatch (.wrongLength index name count))
  | index, f :: fs, t :: ts => do
    let v ← t.shaped f.shape
    (inOrder name count (index + 1) fs ts).map fun r => (v, r)

/-! ## Reading lists of values -/

variable {name : String} {count index : Nat} {f : Field} {fs : List Field}

/-- At the closing bracket nothing is read any more. -/
theorem fieldsInOrder_of_close {blanks : List Char} (h : Blanks blanks) (rest : List Char) :
    fieldsInOrder name count index (f :: fs) (blanks ++ [']'] ++ rest) =
      (match f.beyond? with
        | some v => do return (v, ← fieldsInOrder name count (index + 1) fs)
        | none => mismatch (.wrongLength index name count) : Read (Record (f :: fs)))
        (']' :: rest) := by
  rw [List.append_assoc]
  exact bind_ok (peekToken_behind h rfl rest)

theorem of_no_close {α : Type} {c : Char} (h : c ≠ ']') (ended closed : α) (going : Char → α) :
    (match some c with
      | none => ended
      | some ']' => closed
      | some c => going c) = going c := by
  split
  · contradiction
  · rename_i hc
    exact absurd (Option.some.inj hc) h
  · rename_i hc
    rw [Option.some.inj hc]

/-- In front of a value there is a comma, unless it is the first. -/
theorem fieldsInOrder_of_separator {c : Char} (hb : isBlank c = false) (hc : c ≠ ']')
    {separator : List Char} (h : Separator (index == 0) separator) (cs : List Char) :
    fieldsInOrder name count index (f :: fs) (separator ++ c :: cs) = (do
      let v ← shaped f.shape
      return (v, ← fieldsInOrder name count (index + 1) fs) : Read (Record (f :: fs)))
        (c :: cs) := by
  rw [fieldsInOrder]
  cases hi : index == 0 with
  | true =>
    rw [hi] at h
    cases h with | first h =>
    rw [bind_ok (peekToken_behind h hb cs)]
    have hi : index = 0 := eq_of_beq hi
    exact (congrFun (of_no_close hc truncated _ _) _).trans (congrFun (if_pos hi) _)
  | false =>
    rw [hi] at h
    cases h with | @next blanks more h hm =>
    have hi : index ≠ 0 := ne_of_beq_false hi
    rw [List.append_assoc, List.cons_append, bind_ok (peekToken_behind h rfl _)]
    refine (congrFun (if_neg hi) _).trans ((congrFun (if_pos rfl) _).trans ?_)
    rw [bind_ok (Reader.next_cons _ _), bind_ok (peekToken_behind hm hb cs)]
    exact congrFun (of_no_close hc truncated malformed _) _

theorem answers_inOrder {vs : List (List Char)} {cs : List Char}
    (h : Listed (index == 0) vs cs) {ts : List Tree} (hv : List.Forall₂ Reads ts vs)
    (hl : ts.length ≤ fs.length) (rest : List Char) :
    ∃ blanks, Blanks blanks ∧ Answers (fieldsInOrder name count index fs) (cs ++ rest)
      (Tree.inOrder name count index fs ts) (blanks ++ ']' :: rest) := by
  induction fs generalizing index vs cs ts with
  | nil =>
    cases hv with
    | cons _ _ => cases hl
    | nil =>
      cases h with | @close _ blanks h =>
      refine ⟨blanks, h, ?_⟩
      rw [List.append_assoc]
      rfl
  | cons f fs ih =>
    cases h with
    | close h =>
      cases hv
      have hnone : Blanks [] := List.forall_mem_nil _
      obtain ⟨blanks, hblanks, ih⟩ := @ih (index + 1) [] _ (.close hnone) [] .nil (Nat.zero_le _)
      refine ⟨blanks, hblanks, ?_⟩
      unfold Answers Tree.inOrder
      rw [fieldsInOrder_of_close h]
      cases f.beyond? with
      | none => rfl
      | some v => exact Reader.answers_map ih fun r => (v, r)
    | @cons _ value vs separator text hs hr =>
      cases hv with | @cons t _ ts _ hvalue hv =>
      obtain ⟨blanks, hblanks, ih⟩ := @ih (index + 1) _ _ hr _ hv (Nat.le_of_succ_le_succ hl)
      obtain ⟨c, more, hc, hb, hne⟩ := exists_of_wellFormed hvalue.formed
      refine ⟨blanks, hblanks, ?_⟩
      have hshaped := hvalue.shaped f.shape (text ++ rest) (ends_of_listed hr rest)
      unfold Answers Tree.inOrder
      rw [List.append_assoc, List.append_assoc, hc, List.cons_append,
        fieldsInOrder_of_separator hb hne hs, ← List.cons_append, ← hc]
      exact Reader.answers_bind hshaped fun v _ => Reader.answers_map ih fun r => (v, r)

/-! ## Documents -/

/-- A whole text that holds one list and blanks around it, by the texts of its values. -/
inductive ListText : List (List Char) → String → Prop
  | list {vs : List (List Char)} {s : String} {before cs after : List Char} (hb : Blanks before)
      (h : Listed true vs cs) (hv : ∀ v ∈ vs, WellFormed v) (ha : Blanks after)
      (hs : s.toList = before ++ ('[' :: cs ++ after)) : ListText vs s

/-- A list is read as the record that its values make in order, if there are no more of them than
fields. -/
theorem decode_of_list {α : Type} (schema : Schema α) {vs : List (List Char)} {s : String}
    (h : ListText vs s) {ts : List Tree} (hv : List.Forall₂ Reads ts vs)
    (hl : ts.length ≤ schema.fields.length) : decode schema s =
      (Tree.inOrder schema.name schema.fields.length 0 schema.fields ts).map schema.ofRecord := by
  cases h with | @list before cs after hb h _ ha hs =>
  rw [← List.append_assoc] at hs
  refine decode_of_answers ?_ ha hs
  obtain ⟨blanks, hblanks, hfields⟩ := @answers_inOrder schema.name schema.fields.length 0 _ _ _ h
    _ hv hl after
  have ht : token (before ++ '[' :: cs ++ after) = .ok (.sequence, '[' :: cs ++ after) := by
    rw [List.append_assoc, token_of_blanks hb]
    rfl
  have hend : listEnd (blanks ++ ']' :: after) = .ok ((), after) := by
    unfold listEnd
    rw [bind_ok (peekToken_behind hblanks rfl after)]
    rfl
  unfold Answers record
  rw [bind_ok ht]
  show (do
    let r ← fieldsInOrder schema.name schema.fields.length 0 schema.fields
    listEnd
    return schema.ofRecord r : Read α) (cs ++ after) = _
  cases hx : Tree.inOrder schema.name schema.fields.length 0 schema.fields ts with
  | error e =>
    rw [hx] at hfields
    exact bind_error hfields
  | ok r =>
    rw [hx] at hfields
    rw [bind_ok hfields, bind_ok hend]
    rfl

end AppVersions.Json
