-- The laws of records as JSON: in either layout a record is written as a text of its tree, and its
-- tree is read as the record, so that every record of the program survives its written form.
import AppVersions.Capture
import AppVersions.Json.Layout
import AppVersions.Options
import AppVersions.OutputStream
import AppVersions.Proofs.Instants
import AppVersions.Proofs.Json.Reading
import AppVersions.Selection

/-! ## Single values -/

namespace AppVersions.Kind

/-- What the text of a value shows it to be. -/
def found : (k : Kind) → k.Value → Found
  | .text, s => .text s
  | .path, (p : Path) => .text p.text
  | .flag, b => .flag b
  | .int32, (n : Int32) => .integer n.toInt
  | .word64, (n : UInt64) => .integer n.toNat
  | .instant, (t : Instant) => .text t.text

theorem accept_int32 (n : Int32) : accept .int32 (.integer n.toInt) = .ok n := by
  have h : accept .int32 (.integer n.toInt) = .ok (Int32.ofInt n.toInt) :=
    if_pos ⟨Int32.le_toInt n, Int32.toInt_le n⟩
  rw [h, Int32.ofInt_toInt]

theorem accept_word64 (n : UInt64) : accept .word64 (.integer n.toNat) = .ok n := by
  have hn := UInt64.toNat_lt n
  have h : accept .word64 (.integer n.toNat) = .ok (UInt64.ofNat (n.toNat : Int).toNat) :=
    if_pos (by omega)
  rw [h, Int.toNat_natCast, UInt64.ofNat_toNat]

theorem accept_instant (t : Instant) : accept .instant (.text t.text) = .ok t := by
  rw [accept, Instant.read_text]

theorem accept_found (k : Kind) (v : k.Value) : k.accept (k.found v) = .ok v := by
  cases k with
  | text => rfl
  | path => rfl
  | flag => rfl
  | int32 => exact accept_int32 v
  | word64 => exact accept_word64 v
  | instant => exact accept_instant v

theorem found_ne_null (k : Kind) (v : k.Value) : k.found v ≠ .null := by
  cases k <;> exact nofun

end AppVersions.Kind

/-! ## Slots -/

namespace AppVersions.Slots

/-- The slots of a record all of whose fields were read. -/
def full : (fs : List Field) → Record fs → Slots fs
  | [], _ => ()
  | _ :: fs, (v, r) => (some v, full fs r)

/-- A record is finished when all its fields were read. -/
theorem finish_full (fs : List Field) (r : Record fs) : Slots.finish fs (full fs r) = .ok r := by
  induction fs with
  | nil => rfl
  | cons f fs ih =>
    show (Slots.finish fs (full fs r.2)).map (fun r' => (r.1, r')) = .ok r
    rw [ih r.2]
    rfl

end AppVersions.Slots

namespace AppVersions.Json

/-! ## Trees of records -/

namespace Tree

def ofSingle : (k : Kind) → k.Value → Tree
  | .text, s => .text s
  | .path, (p : Path) => .text p.text
  | .flag, (b : Bool) => .flag b
  | .int32, (n : Int32) => .number (.ofInt n.toInt)
  | .word64, (n : UInt64) => .number (.ofInt n.toNat)
  | .instant, (t : Instant) => .text t.text

def ofShape : (s : Shape) → s.Value → Tree
  | .one k, v => ofSingle k v
  | .optional _, none => .null
  | .optional k, some v => ofSingle k v
  | .many k, vs => .list (List.map (ofSingle k) vs)

def ofRecord : (fs : List Field) → Record fs → List (String × Tree)
  | [], _ => []
  | f :: fs, (v, r) => (f.name, ofShape f.shape v) :: ofRecord fs r

theorem found_ofSingle (k : Kind) (v : k.Value) : (ofSingle k v).found = .ok (k.found v) := by
  cases k with
  | text | path | flag | instant => rfl
  | int32 =>
    have hl : -2147483648 ≤ Int32.toInt v := Int32.le_toInt v
    have hu : Int32.toInt v ≤ 2147483647 := Int32.toInt_le v
    exact value_ofInt_of_fits (by omega) (by omega)
  | word64 =>
    have hu := UInt64.toNat_lt v
    exact value_ofInt_of_fits (by omega) (by omega)

theorem single_ofSingle (k : Kind) (v : k.Value) : (ofSingle k v).single k = .ok v := by
  unfold single
  rw [found_ofSingle]
  show (k.accept (k.found v)).mapError Fault.mismatch = .ok v
  rw [k.accept_found]
  rfl

theorem optional_ofSingle (k : Kind) (v : k.Value) :
    (ofSingle k v).optional k = .ok (some v) := by
  have hne : (ofSingle k v).found ≠ .ok .null := by
    rw [found_ofSingle]
    exact fun h => k.found_ne_null v (Except.ok.inj h)
  rw [optional_eq hne, single_ofSingle]
  rfl

theorem many_ofSingle (k : Kind) (vs : List k.Value) :
    (List.map (ofSingle k) vs).mapM (single k) = .ok vs := by
  induction vs with
  | nil => rfl
  | cons v vs ih =>
    rw [List.map_cons, List.mapM_cons, single_ofSingle, ih]
    rfl

theorem shaped_ofShape (s : Shape) (v : s.Value) : (ofShape s v).shaped s = .ok v := by
  cases s with
  | one k => exact single_ofSingle k v
  | optional k =>
    obtain _ | v := v
    · rfl
    · exact optional_ofSingle k v
  | many k => exact many_ofSingle k v

/-- Members of other names pass by a field. -/
theorem filled_further {f : Field} {ms : List (String × Tree)} (h : ∀ m ∈ ms, f.name ≠ m.1)
    {fs : List Field} (slot : Option f.shape.Value) (slots : Slots fs) :
    @filled (f :: fs) (slot, slots) ms = (filled slots ms).map fun slots => (slot, slots) := by
  induction ms generalizing slots with
  | nil => rfl
  | cons m ms ih =>
    obtain ⟨key, t⟩ := m
    refine (@filled_cons (f :: fs) (slot, slots) key t ms).trans ?_
    rw [member_further (h _ List.mem_cons_self), filled_cons]
    cases t.member key fs slots with
    | error e => rfl
    | ok slots => exact ih (fun m hm => h m (List.mem_cons_of_mem _ hm)) slots

theorem name_of_mem_ofRecord {fs : List Field} {r : Record fs} {m : String × Tree}
    (h : m ∈ ofRecord fs r) : m.1 ∈ fs.map (·.name) := by
  induction fs with
  | nil => cases h
  | cons f fs ih =>
    rcases List.mem_cons.mp h with rfl | h
    · exact List.mem_cons_self
    · exact List.mem_cons_of_mem _ (ih h)

/-- The members of a record fill all slots. -/
theorem filled_ofRecord {fs : List Field} (hn : (fs.map (·.name)).Nodup) (r : Record fs) :
    filled (Slots.none fs) (ofRecord fs r) = .ok (Slots.full fs r) := by
  induction fs with
  | nil => rfl
  | cons f fs ih =>
    obtain ⟨v, r⟩ := r
    rw [List.map_cons, List.nodup_cons] at hn
    have hother : ∀ m ∈ ofRecord fs r, f.name ≠ m.1 := by
      intro m hm he
      exact hn.1 (he ▸ name_of_mem_ofRecord hm)
    have hfirst : member f.name (ofShape f.shape v) (f :: fs) (Slots.none (f :: fs)) =
        .ok (some v, Slots.none fs) := by
      show member f.name (ofShape f.shape v) (f :: fs) (none, Slots.none fs) = _
      rw [member_here rfl, shaped_ofShape]
      rfl
    show filled _ ((f.name, ofShape f.shape v) :: ofRecord fs r) = _
    rw [filled_cons, hfirst]
    show @filled (f :: fs) (some v, Slots.none fs) (ofRecord fs r) = _
    rw [filled_further hother, ih hn.2]
    rfl

theorem toRecord_ofRecord {α : Type} (schema : Schema α) (a : α) :
    toRecord schema (ofRecord schema.fields (schema.toRecord a)) = .ok a := by
  have hfields : fields schema.fields (ofRecord schema.fields (schema.toRecord a)) =
      .ok (schema.toRecord a) := by
    unfold fields
    rw [filled_ofRecord schema.names_nodup]
    show (Slots.finish schema.fields _).mapError Fault.mismatch = _
    rw [Slots.finish_full]
    rfl
  unfold toRecord
  rw [hfields]
  exact congrArg Except.ok (schema.ofRecord_toRecord a)

end Tree

/-! ## Items between brackets -/

/-- What is written after an item: the items that are left, each after a comma, and the closing
bracket. -/
def Layout.following (layout : Layout) (level : Nat) (closing : Char) :
    List (List Char) → List Char
  | [] => layout.break level ++ [closing]
  | item :: items =>
    ',' :: (layout.break (level + 1) ++ (item ++ layout.following level closing items))

/-- What is written after the opening bracket, where the first item has no comma, or after an item.
-/
def Layout.remaining (layout : Layout) (level : Nat) (closing : Char) :
    Bool → List (List Char) → List Char
  | true, [] => [closing]
  | true, item :: items =>
    layout.break (level + 1) ++ (item ++ layout.following level closing items)
  | false, items => layout.following level closing items

theorem isBlank_of_mem_break {layout : Layout} {level : Nat} :
    ∀ c ∈ layout.break level, isBlank c = true := by
  intro c hc
  cases layout with
  | compact => cases hc
  | indented =>
    rcases List.mem_cons.mp hc with rfl | hc
    · rfl
    · rw [(List.mem_replicate.mp hc).2]
      rfl

theorem enclose_eq (layout : Layout) (level : Nat) (opening closing : Char)
    (items : List (List Char)) : layout.enclose level opening closing items =
      opening :: layout.remaining level closing true items := by
  have hitems : ∀ (item : List Char) (items : List (List Char)),
      (',' :: layout.break (level + 1)).intercalate (item :: items) ++ (layout.break level ++
        [closing]) = item ++ layout.following level closing items := by
    intro item items
    induction items generalizing item with
    | nil =>
      rw [List.intercalate_singleton]
      rfl
    | cons next items ih =>
      rw [List.intercalate_cons_cons, List.append_assoc, List.append_assoc, ih]
      rfl
  cases items with
  | nil => rfl
  | cons item items =>
    show opening :: (_ ++ _ ++ _ ++ _) = _
    rw [List.append_assoc, List.append_assoc, hitems]
    rfl

/-! ## Texts of records -/

theorem spelled_showSingle (k : Kind) (v : k.Value) :
    Spelled (.ofSingle k v) (showSingle k v) := by
  cases k with
  | text | path | instant => exact .text (stringSpelled_quote _)
  | flag => exact .flag v
  | int32 | word64 => exact .number (literalSpelled_showInt _)

theorem separator_break (layout : Layout) (level : Nat) :
    Separator true (layout.break level) ∧ Separator false (',' :: layout.break level) :=
  ⟨.first isBlank_of_mem_break, .next (List.forall_mem_nil _) isBlank_of_mem_break⟩

theorem elementsSpelled_remaining (layout : Layout) (level : Nat) (k : Kind) (vs : List k.Value)
    (first : Bool) : ElementsSpelled first (List.map (Tree.ofSingle k) vs)
      (layout.remaining level ']' first (List.map (showSingle k) vs)) := by
  obtain ⟨hfirst, hnext⟩ := separator_break layout (level + 1)
  induction vs generalizing first with
  | nil =>
    cases first with
    | true => exact .close (List.forall_mem_nil _)
    | false => exact .close isBlank_of_mem_break
  | cons v vs ih =>
    cases first with
    | true => exact .cons hfirst (spelled_showSingle k v) (ih false)
    | false => exact .cons hnext (spelled_showSingle k v) (ih false)

theorem spelled_showShape (layout : Layout) (s : Shape) (v : s.Value) :
    Spelled (.ofShape s v) (showShape layout s v) := by
  cases s with
  | one k => exact spelled_showSingle k v
  | optional k =>
    obtain _ | v := v
    · exact .null
    · exact spelled_showSingle k v
  | many k =>
    show Spelled _ (layout.enclose 1 '[' ']' (List.map (showSingle k) v))
    rw [enclose_eq]
    exact .list (elementsSpelled_remaining layout 1 k v true)

/-- The blanks after a colon. -/
theorem exists_colon (layout : Layout) : ∃ blanks, layout.colon = ':' :: blanks ∧ Blanks blanks := by
  cases layout with
  | compact => exact ⟨[], rfl, List.forall_mem_nil _⟩
  | indented => exact ⟨[' '], rfl, List.forall_mem_singleton.mpr rfl⟩

theorem membersSpelled_remaining (layout : Layout) (fs : List Field) (r : Record fs)
    (first : Bool) : MembersSpelled first (Tree.ofRecord fs r)
      (layout.remaining 0 '\x7d' first (members layout fs r)) := by
  obtain ⟨hfirst, hnext⟩ := separator_break layout 1
  obtain ⟨blanks, hcolon, hblanks⟩ := exists_colon layout
  induction fs generalizing first with
  | nil =>
    cases first with
    | true => exact .close (List.forall_mem_nil _)
    | false => exact .close isBlank_of_mem_break
  | cons f fs ih =>
    obtain ⟨v, r⟩ := r
    have hitem : ∀ text, quote f.name ++ layout.colon ++ showShape layout f.shape v ++ text =
        quote f.name ++ ([] ++ ':' :: (blanks ++ (showShape layout f.shape v ++ text))) := by
      intro text
      simp only [hcolon, List.append_assoc, List.cons_append, List.nil_append]
    have hmember := fun {first separator} (h : Separator first separator) =>
      MembersSpelled.cons h (stringSpelled_quote f.name) (List.forall_mem_nil _) hblanks
        (spelled_showShape layout f.shape v) (ih r false)
    cases first with
    | true =>
      show MembersSpelled true _ (layout.break 1 ++
        (quote f.name ++ layout.colon ++ showShape layout f.shape v ++ _))
      rw [hitem]
      exact hmember hfirst
    | false =>
      show MembersSpelled false _ (',' :: layout.break 1 ++
        (quote f.name ++ layout.colon ++ showShape layout f.shape v ++ _))
      rw [hitem]
      exact hmember hnext

/-! ## Documents -/

theorem documentSpelled_encode {α : Type} (schema : Schema α) (layout : Layout) (a : α) :
    DocumentSpelled (Tree.ofRecord schema.fields (schema.toRecord a)) (encode schema layout a) := by
  have hmembers := membersSpelled_remaining layout schema.fields (schema.toRecord a) true
  refine .object (List.forall_mem_nil _) (.object hmembers) (List.forall_mem_nil _) ?_
  unfold encode
  rw [String.toList_ofList, enclose_eq, List.append_nil]
  rfl

/-- A record is read from what is written for it. -/
theorem decode_encode {α : Type} (schema : Schema α) (layout : Layout) (a : α) :
    decode schema (encode schema layout a) = .ok a := by
  rw [decode_of_spelled schema (documentSpelled_encode schema layout a)]
  exact Tree.toRecord_ofRecord schema a

/-! ## The records of the program -/

/-- What is written is read as it was. So whatever text a value was read from, its own text is read
as the same value, and is what is written for that value again. -/
structure Survives {α : Type} (write : α → String) (read : String → Except Fault α) : Prop where
  given_back : ∀ a, read (write a) = .ok a
  settled : ∀ text a, read text = .ok a →
    read (write a) = .ok a ∧ (read (write a)).map write = .ok (write a)

theorem survives_of_given_back {α : Type} {write : α → String} {read : String → Except Fault α}
    (h : ∀ a, read (write a) = .ok a) : Survives write read := by
  refine ⟨h, fun _ a _ => ⟨h a, ?_⟩⟩
  rw [h a]
  rfl

theorem decode_encode_stream (s : OutputStream) : OutputStream.decode s.encode = .ok s := by
  cases s <;> rfl

/-- Selections, listings, options and captures survive being written in either layout, and streams
in the one that they have. -/
theorem every_model_survives_its_written_form (layout : Layout) :
    Survives (encode Selection.schema layout) (decode Selection.schema) ∧
      Survives (encode Listing.schema layout) (decode Listing.schema) ∧
      Survives (encode GcloudOptions.schema layout) (decode GcloudOptions.schema) ∧
      Survives (encode Capture.schema layout) (decode Capture.schema) ∧
      Survives OutputStream.encode OutputStream.decode :=
  ⟨survives_of_given_back (decode_encode _ layout),
    survives_of_given_back (decode_encode _ layout),
    survives_of_given_back (decode_encode _ layout),
    survives_of_given_back (decode_encode _ layout),
    survives_of_given_back decode_encode_stream⟩

end AppVersions.Json
