-- The laws of reading JSON: whatever the layout, a value is read as what its tree says. An object
-- is read member by member, and what belongs to no field is passed over.
import AppVersions.Proofs.Json.WellFormed

namespace AppVersions.Json

open AppVersions.Reader (Answers Gathers Runs bind_ok bind_error)

/-! ## What trees say -/

namespace Tree

/-- What a value shows itself to be. -/
def found : Tree → Except Fault Found
  | .null => .ok .null
  | .flag b => .ok (.flag b)
  | .number n => n.value
  | .text s => .ok (.text s)
  | .list _ => .ok .sequence
  | .object _ => .ok .table

def single (k : Kind) (t : Tree) : Except Fault k.Value := do
  (k.accept (← t.found)).mapError .mismatch

def optional (k : Kind) (t : Tree) : Except Fault (Option k.Value) := do
  match ← t.found with
  | .null => return none
  | found => ((k.accept found).mapError .mismatch).map some

/-- The values of a list; the first one that does not fit is reported. -/
def many (k : Kind) : Tree → Except Fault (List k.Value)
  | .list ts => ts.mapM (single k)
  | t => do .error (.mismatch (.wrongType (← t.found) .sequence))

def shaped (t : Tree) : (s : Shape) → Except Fault s.Value
  | .one k => t.single k
  | .optional k => t.optional k
  | .many k => t.many k

/-- Puts the value of a member into the slot of its field; no member comes twice. -/
def member (key : String) (t : Tree) : (fs : List Field) → Slots fs → Except Fault (Slots fs)
  | [], slots => .ok slots
  | f :: fs, (slot, slots) =>
    if f.name = key then
      if slot.isSome then .error (.mismatch (.duplicate key))
      else (t.shaped f.shape).map fun v => (some v, slots)
    else (t.member key fs slots).map fun slots => (slot, slots)

/-- The slots after the members of an object. -/
def filled {fs : List Field} (slots : Slots fs) (ms : List (String × Tree)) :
    Except Fault (Slots fs) :=
  ms.foldlM (fun slots (key, t) => t.member key fs slots) slots

/-- Only null stands for nothing. -/
theorem optional_eq {t : Tree} (h : t.found ≠ .ok .null) (k : Kind) :
    t.optional k = (t.single k).map some := by
  unfold optional single
  cases hf : t.found with
  | error e => rfl
  | ok found =>
    cases found with
    | null => exact absurd hf h
    | flag _ | integer _ | real _ | text _ | sequence | table => rfl

theorem member_here {f : Field} {key : String} (h : f.name = key) (t : Tree) (fs : List Field)
    (slots : Slots fs) : t.member key (f :: fs) (none, slots) =
      (t.shaped f.shape).map fun v => (some v, slots) :=
  (if_pos h).trans (if_neg Bool.false_ne_true)

theorem member_twice {f : Field} {key : String} (h : f.name = key) (t : Tree) {fs : List Field}
    (v : f.shape.Value) (slots : Slots fs) :
    t.member key (f :: fs) (some v, slots) = .error (.mismatch (.duplicate key)) :=
  (if_pos h).trans (if_pos rfl)

theorem member_further {f : Field} {key : String} (h : f.name ≠ key) (t : Tree) {fs : List Field}
    (slot : Option f.shape.Value) (slots : Slots fs) : t.member key (f :: fs) (slot, slots) =
      (t.member key fs slots).map fun slots => (slot, slots) :=
  if_neg h

theorem filled_cons {fs : List Field} (slots : Slots fs) (key : String) (t : Tree)
    (ms : List (String × Tree)) :
    filled slots ((key, t) :: ms) = t.member key fs slots >>= fun slots => filled slots ms := by
  unfold filled
  rw [List.foldlM_cons]

/-- The fields that the members of an object fill. -/
def fields (fs : List Field) (ms : List (String × Tree)) : Except Fault (Record fs) := do
  let slots ← filled (Slots.none fs) ms
  (slots.finish fs).mapError .mismatch

/-- The record that the members of an object make. -/
def toRecord {α : Type} (schema : Schema α) (ms : List (String × Tree)) : Except Fault α :=
  (fields schema.fields ms).map schema.ofRecord

end Tree

/-! ## Reading single values -/

theorem answers_accepted {α : Type} (r : Except Mismatch α) (cs : List Char) :
    Answers (accepted r) cs (r.mapError .mismatch) cs := by
  cases r <;> rfl

/-- What a text shows itself to be is what `t` is. Lists and objects stay in place, every other value
is taken off. -/
structure Shows (t : Tree) (v : List Char) : Prop where
  formed : WellFormed v
  token : ∀ rest, Ends rest → ∃ after, Answers token (v ++ rest) t.found after ∧
    ∀ found, t.found = .ok found → found ≠ .sequence → found ≠ .table → after = rest

theorem shows_of_taken {t : Tree} {v : List Char} (hf : WellFormed v)
    (h : ∀ rest, Ends rest → Answers token (v ++ rest) t.found rest) : Shows t v :=
  ⟨hf, fun rest hr => ⟨rest, h rest hr, fun _ _ _ _ => rfl⟩⟩

theorem shows_of_listed {vs : List (List Char)} {cs : List Char} (h : Listed true vs cs)
    (hf : ∀ v ∈ vs, WellFormed v) (ts : List Tree) : Shows (.list ts) ('[' :: cs) := by
  refine ⟨.list h hf, fun rest _ => ⟨_, rfl, ?_⟩⟩
  rintro _ ⟨⟩ hs
  exact absurd rfl hs

theorem shows_of_named {vs : List (Unit × List Char)} {cs : List Char}
    (h : Named (fun _ => StringFormed) true vs cs) (hf : ∀ v ∈ vs, WellFormed v.2)
    (ms : List (String × Tree)) : Shows (.object ms) ('\x7b' :: cs) := by
  refine ⟨.object h hf, fun rest _ => ⟨_, rfl, ?_⟩⟩
  rintro _ ⟨⟩ _ ht
  exact absurd rfl ht

theorem shows_of_spelled {t : Tree} {v : List Char} (h : Spelled t v) : Shows t v := by
  cases h with
  | null => exact shows_of_taken .null fun _ _ => rfl
  | flag b => exact shows_of_taken (.flag b) fun rest _ => token_flag b rest
  | number h => exact shows_of_taken (.number h) fun _ hr => answers_number h hr
  | text h =>
    exact shows_of_taken (.text (stringFormed_of_spelled h)) fun rest _ => answers_string h rest
  | list h =>
    obtain ⟨_, hlisted, hf, _⟩ := listed_of_spelled h
    exact shows_of_listed hlisted hf _
  | object h =>
    obtain ⟨_, hnamed, hf, _⟩ := named_of_spelled h
    exact shows_of_named (named_of_keys hnamed) (List.forall_mem_map.mpr hf) _

/-- No kind accepts a list or a table. -/
theorem isSingle_of_accept {k : Kind} {found : Found} {v : k.Value} (h : k.accept found = .ok v) :
    found ≠ .sequence ∧ found ≠ .table := by
  constructor
  all_goals
    rintro rfl
    cases k <;> cases h

/-- What a kind accepts is taken off the text. -/
theorem answers_accept {k : Kind} {found : Found} {after rest : List Char}
    (h : found ≠ .sequence → found ≠ .table → after = rest) :
    Answers (accepted (k.accept found)) after ((k.accept found).mapError .mismatch) rest := by
  cases hk : k.accept found with
  | error cause => rfl
  | ok v =>
    obtain ⟨hs, ht⟩ := isSingle_of_accept hk
    rw [h hs ht]
    rfl

theorem answers_single (k : Kind) {t : Tree} {v rest : List Char} (h : Shows t v)
    (hr : Ends rest) : Answers (single k) (v ++ rest) (t.single k) rest := by
  obtain ⟨after, ht, ha⟩ := h.token rest hr
  exact Reader.answers_bind ht fun found hf => answers_accept (ha found hf)

theorem answers_optional (k : Kind) {t : Tree} {v rest : List Char} (h : Shows t v)
    (hr : Ends rest) : Answers (optional k) (v ++ rest) (t.optional k) rest := by
  obtain ⟨after, ht, ha⟩ := h.token rest hr
  refine Reader.answers_bind ht ?_
  intro found hf
  have ha := ha found hf
  cases found with
  | null =>
    rw [ha (by decide) (by decide)]
    rfl
  | flag _ | integer _ | real _ | text _ | sequence | table =>
    exact Reader.answers_map (answers_accept ha) some

/-! ## Reading lists -/

theorem gathers_elements (k : Kind) {first : Bool} {vs : List (List Char)} {cs : List Char}
    (h : Listed first vs cs) {ts : List Tree} (hv : List.Forall₂ Shows ts vs) (rest : List Char) :
    Gathers (fun first => do
        if ← hasItem ']' first then return some (← single k) else return none : Bool → Read _)
      first (cs ++ rest) (ts.mapM (Tree.single k)) rest := by
  induction h generalizing ts with
  | @close first blanks h =>
    cases hv
    refine .done ?_
    rw [bind_ok (hasItem_of_close rfl h first rest)]
    rfl
  | @cons first value vs separator text hs hr ih =>
    cases hv with | @cons t _ ts _ hvalue hv =>
    obtain ⟨c, more, hc, hb, hne⟩ := exists_of_wellFormed hvalue.formed
    have hitem : hasItem ']' first (separator ++ (value ++ text) ++ rest) =
        .ok (true, value ++ (text ++ rest)) := by
      rw [List.append_assoc, List.append_assoc, hc]
      exact hasItem_of_separator hb hne (by decide) hs _
    have hone := answers_single k hvalue (ends_of_listed hr rest)
    rw [List.mapM_cons]
    cases ht : t.single k with
    | error e =>
      rw [ht] at hone
      refine .fails ?_
      rw [bind_ok hitem, if_pos rfl]
      exact bind_error hone
    | ok v =>
      rw [ht] at hone
      have hl : (text ++ rest).length < (separator ++ (value ++ text) ++ rest).length := by
        rw [hc]
        simp only [List.length_append, List.length_cons]
        omega
      have hstep : (do
          if ← hasItem ']' first then return some (← single k) else return none : Read _)
            (separator ++ (value ++ text) ++ rest) = .ok (some v, text ++ rest) := by
        rw [bind_ok hitem, if_pos rfl]
        exact bind_ok hone
      exact .more hstep hl (ih hv)

/-- Only a list shows itself to be one. -/
theorem found_ne_sequence {t : Tree} (h : ∀ ts, t ≠ .list ts) : t.found ≠ .ok .sequence := by
  cases t with
  | list ts => exact absurd rfl (h ts)
  | null | flag _ | text _ | object _ => exact nofun
  | number n =>
    intro hs
    obtain ⟨m, hv⟩ | ⟨text, hv⟩ | hv := integer_or_isReal n <;>
    · rw [Tree.found, hv] at hs
      cases hs

theorem Tree.many_of_no_list (k : Kind) {t : Tree} (h : ∀ ts, t ≠ .list ts) :
    t.many k = t.found >>= fun found => .error (.mismatch (.wrongType found .sequence)) := by
  cases t with
  | list ts => exact absurd rfl (h ts)
  | null | flag _ | number _ | text _ | object _ => rfl

/-! ## Reading fields -/

/-- A text is read as what `t` says, whatever shape is wanted. -/
structure Reads (t : Tree) (v : List Char) : Prop where
  formed : WellFormed v
  shaped : ∀ s rest, Ends rest → Answers (shaped s) (v ++ rest) (t.shaped s) rest

theorem reads_of_shows {t : Tree} {v : List Char} (h : Shows t v) (hne : ∀ ts, t ≠ .list ts) :
    Reads t v := by
  refine ⟨h.formed, fun s rest hr => ?_⟩
  cases s with
  | one k => exact answers_single k h hr
  | optional k => exact answers_optional k h hr
  | many k =>
    obtain ⟨after, ht, _⟩ := h.token rest hr
    show Answers (many k) _ (t.many k) rest
    rw [Tree.many_of_no_list k hne]
    refine Reader.answers_bind ht ?_
    intro found hf
    cases found with
    | sequence => exact absurd hf (found_ne_sequence hne)
    | null | flag _ | integer _ | real _ | text _ | table => rfl

theorem reads_of_listed {vs : List (List Char)} {cs : List Char} (h : Listed true vs cs)
    (hf : ∀ v ∈ vs, WellFormed v) {ts : List Tree} (hv : List.Forall₂ Shows ts vs) :
    Reads (.list ts) ('[' :: cs) := by
  have hshows := shows_of_listed h hf ts
  refine ⟨hshows.formed, fun s rest hr => ?_⟩
  cases s with
  | one k => exact answers_single k hshows hr
  | optional k => exact answers_optional k hshows hr
  | many k => exact Reader.collect_of_gathers (gathers_elements k h hv rest) _

theorem reads_of_spelled {t : Tree} {v : List Char} (h : Spelled t v) : Reads t v := by
  by_cases hlist : ∃ ts, t = .list ts
  · obtain ⟨ts, rfl⟩ := hlist
    cases h with | list h =>
    obtain ⟨_, hlisted, hf, hv⟩ := listed_of_spelled h
    exact reads_of_listed hlisted hf (hv.imp fun _ _ h => shows_of_spelled h)
  · exact reads_of_shows (shows_of_spelled h) fun ts hts => hlist ⟨ts, hts⟩

/-- A number too large to be finite, which no field takes. -/
def infinite : NumberLiteral where
  negative := false
  whole := ['1']
  fraction := none
  exponent := some (false, "2147483648".toList)

theorem found_infinite : (Tree.number infinite).found = .error .malformed := by
  show infinite.value = _
  decide

/-- A string that is no text is refused just as a number too large to be finite is. -/
theorem exists_shows_of_string {v : List Char} (h : StringFormed v) :
    ∃ t, Shows t v ∧ ∀ ts, t ≠ .list ts := by
  rcases string_of_formed h with ⟨s, hs⟩ | hrefused
  · exact ⟨_, shows_of_spelled (.text hs), nofun⟩
  · refine ⟨.number infinite, shows_of_taken (.text h) fun rest _ => ?_, nofun⟩
    have hstring := hrefused rest
    obtain @⟨text, _⟩ := h
    rw [found_infinite]
    show (do return .text (← string) : Read Found) ('"' :: text ++ rest) = _
    exact bind_error hstring

theorem exists_shows {v : List Char} (h : WellFormed v) : ∃ t, Shows t v := by
  cases h with
  | null => exact ⟨_, shows_of_spelled .null⟩
  | flag b => exact ⟨_, shows_of_spelled (.flag b)⟩
  | number h => exact ⟨_, shows_of_spelled (.number h)⟩
  | text h =>
    obtain ⟨t, ht, _⟩ := exists_shows_of_string h
    exact ⟨t, ht⟩
  | list h hf => exact ⟨.list [], shows_of_listed h hf []⟩
  | object h hf => exact ⟨.object [], shows_of_named h hf []⟩

theorem exists_shows_of_all {vs : List (List Char)} (h : ∀ v ∈ vs, WellFormed v) :
    ∃ ts, List.Forall₂ Shows ts vs := by
  induction vs with
  | nil => exact ⟨[], .nil⟩
  | cons v vs ih =>
    obtain ⟨hv, hvs⟩ := List.forall_mem_cons.mp h
    obtain ⟨t, ht⟩ := exists_shows hv
    obtain ⟨ts, hts⟩ := ih hvs
    exact ⟨t :: ts, .cons ht hts⟩

/-- Every value is read as some tree, whatever its strings stand for. -/
theorem exists_reads {v : List Char} (h : WellFormed v) : ∃ t, Reads t v := by
  cases h with
  | null => exact ⟨_, reads_of_spelled .null⟩
  | flag b => exact ⟨_, reads_of_spelled (.flag b)⟩
  | number h => exact ⟨_, reads_of_spelled (.number h)⟩
  | text h =>
    obtain ⟨t, ht, hne⟩ := exists_shows_of_string h
    exact ⟨t, reads_of_shows ht hne⟩
  | list h hf =>
    obtain ⟨ts, hts⟩ := exists_shows_of_all hf
    exact ⟨.list ts, reads_of_listed h hf hts⟩
  | object h hf => exact ⟨.object [], reads_of_shows (shows_of_named h hf []) nofun⟩

/-! ## Reading objects -/

theorem shaped_of_blanks {blanks : List Char} (h : ∀ c ∈ blanks, isBlank c = true) (s : Shape)
    (cs : List Char) : shaped s (blanks ++ cs) = shaped s cs := by
  have ht := token_of_blanks h cs
  cases s <;> exact Reader.bind_congr_of_eq ht _

theorem member_here (f : Field) (fs : List Field) (slots : Slots fs) :
    member f.name (f :: fs) (none, slots) = (do
      colon
      return (some (← shaped f.shape), slots) : Read (Option f.shape.Value × Slots fs)) :=
  (if_pos rfl).trans (if_neg Bool.false_ne_true)

theorem member_further {f : Field} {key : String} (h : f.name ≠ key) {fs : List Field}
    (slot : Option f.shape.Value) (slots : Slots fs) :
    member key (f :: fs) (slot, slots) = (do
      return (slot, ← member key fs slots) : Read (Option f.shape.Value × Slots fs)) :=
  if_neg h

/-- A member is read from its colon on. -/
theorem answers_member (key : String) {t : Tree} {before after value rest : List Char}
    (hb : Blanks before) (ha : Blanks after) (hv : Reads t value) (hr : Ends rest)
    (fs : List Field) (slots : Slots fs) :
    Answers (member key fs slots) (before ++ ':' :: (after ++ (value ++ rest)))
      (t.member key fs slots) rest := by
  induction fs with
  | nil =>
    show (do
      colon
      skipValue
      return slots : Read (Slots [])) _ = _
    rw [bind_ok (colon_behind hb _), bind_ok (skipValue_behind ha hv.formed hr)]
    rfl
  | cons f fs ih =>
    obtain ⟨slot, slots⟩ := slots
    by_cases hk : f.name = key
    · subst hk
      cases slot with
      | some v =>
        have htwice : member f.name (f :: fs) (some v, slots) = mismatch (.duplicate f.name) :=
          (if_pos rfl).trans (if_pos rfl)
        rw [htwice, Tree.member_twice rfl]
        rfl
      | none =>
        have hs : Answers (shaped f.shape) (after ++ (value ++ rest)) (t.shaped f.shape) rest := by
          unfold Answers
          rw [shaped_of_blanks ha]
          exact hv.shaped f.shape rest hr
        rw [member_here, Tree.member_here rfl]
        exact (bind_ok (colon_behind hb _)).trans
          (Reader.answers_map hs fun v => (some v, slots))
    · rw [member_further hk, Tree.member_further hk]
      exact Reader.answers_map (ih slots) fun slots => (slot, slots)

/-- The members of an object are read one by one, until all are read or one of them fails. -/
theorem runs_members {fs : List Field} {first : Bool} {vs : List (String × List Char)}
    {cs : List Char} (h : Named StringSpelled first vs cs) {ms : List (String × Tree)}
    (hv : List.Forall₂ (fun m v => m.1 = v.1 ∧ Reads m.2 v.2) ms vs) (slots : Slots fs)
    (rest : List Char) :
    ∃ x, Runs (nextMember fs) (first, slots) (cs ++ rest) x rest ∧
      x.map (·.2) = Tree.filled slots ms := by
  induction h generalizing ms slots with
  | @close first blanks h =>
    cases hv
    refine ⟨.ok (first, slots), .done ?_, rfl⟩
    unfold nextMember
    dsimp only
    rw [bind_ok (hasItem_of_close rfl h first rest)]
    rfl
  | @cons first key vs separator name before after value text hs hn hb ha hr ih =>
    cases hv with | @cons m _ ms _ hm hv =>
    obtain ⟨key', t⟩ := m
    obtain ⟨rfl, hvalue⟩ : key' = key ∧ Reads t value := hm
    have hmember := answers_member key' hb ha hvalue (ends_of_named hr rest) fs slots
    have hstring := string_of_spelled hn (before ++ ':' :: (after ++ (value ++ (text ++ rest))))
    obtain ⟨more, rfl⟩ := exists_of_string hn
    have hstep : Answers (nextMember fs (first, slots))
        (separator ++ ('"' :: more ++ (before ++ ':' :: (after ++ (value ++ text)))) ++ rest)
        ((t.member key' fs slots).map fun slots => some (false, slots)) (text ++ rest) := by
      unfold Answers nextMember
      dsimp only
      simp only [List.append_assoc, List.cons_append]
      rw [bind_ok (hasItem_of_separator rfl (by decide) (by decide) hs _), if_pos rfl,
        bind_ok (Reader.peek_apply _)]
      show (do return some (false, ← member (← string) fs slots) :
        Read (Option (Bool × Slots fs))) _ = _
      rw [← List.cons_append, bind_ok hstring]
      exact Reader.answers_map hmember fun slots => some (false, slots)
    cases hm : t.member key' fs slots with
    | error e =>
      rw [hm] at hstep
      refine ⟨.error e, .fails hstep, ?_⟩
      rw [Tree.filled_cons, hm]
      rfl
    | ok filled =>
      rw [hm] at hstep
      obtain ⟨x, hx, hfill⟩ := ih hv filled
      refine ⟨x, .more hstep ?_ hx, ?_⟩
      · simp only [List.length_append, List.length_cons]
        omega
      · rw [hfill, Tree.filled_cons, hm]
        rfl

theorem answers_object {fs : List Field} {vs : List (String × List Char)} {cs : List Char}
    (h : Named StringSpelled true vs cs) {ms : List (String × Tree)}
    (hv : List.Forall₂ (fun m v => m.1 = v.1 ∧ Reads m.2 v.2) ms vs) (rest : List Char) :
    Answers (object fs) (cs ++ rest) (Tree.fields fs ms) rest := by
  obtain ⟨x, hx, hfill⟩ := runs_members h hv (Slots.none fs) rest
  unfold Tree.fields
  rw [← hfill]
  cases x with
  | error e => exact bind_error (Reader.repeatStep_of_runs hx _)
  | ok last =>
    obtain ⟨_, slots⟩ := last
    unfold object
    exact (bind_ok (Reader.repeatStep_of_runs hx _)).trans (answers_accepted _ rest)

/-! ## Documents -/

/-- What a text is read as is the record in it, when only blanks follow. -/
theorem decode_of_answers {α : Type} {schema : Schema α} {s : String} {cs after : List Char}
    {x : Except Fault α} (h : Answers (record schema) (cs ++ after) x after) (ha : Blanks after)
    (hs : s.toList = cs ++ after) : decode schema s = x := by
  have hend : peekToken after = .ok (none, []) := by
    rw [← List.append_nil after, peekToken_of_blanks ha]
    rfl
  unfold decode document
  rw [hs]
  cases x with
  | error e =>
    rw [bind_error h]
    rfl
  | ok a =>
    rw [bind_ok h, bind_ok hend]
    rfl

/-- A whole text that holds one object and blanks around it, by its keys and the texts of its
values. A key is a text, while the strings in a value may be none. -/
inductive ObjectText : List (String × List Char) → String → Prop
  | object {vs : List (String × List Char)} {s : String} {before cs after : List Char}
      (hb : Blanks before) (h : Named StringSpelled true vs cs) (hv : ∀ v ∈ vs, WellFormed v.2)
      (ha : Blanks after) (hs : s.toList = before ++ ('\x7b' :: cs ++ after)) : ObjectText vs s

/-- An object is read as the record that its members make. -/
theorem decode_of_object {α : Type} (schema : Schema α) {vs : List (String × List Char)}
    {s : String} (h : ObjectText vs s) {ms : List (String × Tree)}
    (hm : List.Forall₂ (fun m v => m.1 = v.1 ∧ Reads m.2 v.2) ms vs) :
    decode schema s = Tree.toRecord schema ms := by
  cases h with | @object before cs after hb h _ ha hs =>
  rw [← List.append_assoc] at hs
  refine decode_of_answers ?_ ha hs
  have ht : token (before ++ '\x7b' :: cs ++ after) = .ok (.table, '\x7b' :: cs ++ after) := by
    rw [List.append_assoc, token_of_blanks hb]
    rfl
  unfold Answers record
  rw [bind_ok ht]
  exact Reader.answers_map (answers_object h hm after) schema.ofRecord

/-- An object is read as the record that its members make, however it is written. -/
theorem decode_of_spelled {α : Type} (schema : Schema α) {ms : List (String × Tree)} {s : String}
    (h : DocumentSpelled ms s) : decode schema s = Tree.toRecord schema ms := by
  cases h with | object hb hv ha hs =>
  cases hv with | object hv =>
  obtain ⟨_, hnamed, hf, heach⟩ := named_of_spelled hv
  exact decode_of_object schema (.object hb hnamed hf ha hs)
    (heach.imp fun _ _ h => ⟨h.1, reads_of_spelled h.2⟩)

end AppVersions.Json
