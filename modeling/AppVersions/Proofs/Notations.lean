-- The law of the two notations: the options that a TOML document sets are those that the same table
-- sets as a JSON object, whatever the order of its members and however either text is laid out.
import AppVersions.Config
import AppVersions.Proofs.Json.Members
import AppVersions.Proofs.Toml.Names

namespace AppVersions

open Number (Binary64)

/-! ## One table in two notations -/

/-- The digits of a literal, without the point. -/
def Json.NumberLiteral.digits (l : Json.NumberLiteral) : Nat :=
  Nat.ofDigitChars 10 (l.whole ++ l.fraction.getD []) 0

/-- The power of ten that goes with the digits. -/
def Json.NumberLiteral.power (l : Json.NumberLiteral) : Int :=
  let exponent : Int := match l.exponent with
    | none => 0
    | some (below, ds) =>
      let e : Int := Nat.ofDigitChars 10 ds 0
      if below then -e else e
  exponent - (l.fraction.getD []).length

mutual

/-- A node of a TOML document and a value of JSON hold the same data. A floating-point number may be
written with other digits, as long as they round to the same value. Dates and numbers that are not
finite have no value in JSON. -/
inductive Denotes : Toml.Node → Json.Tree → Prop
  | text (span : Toml.Span) (s : String) : Denotes (.scalar span (.text s)) (.text s)
  | flag (span : Toml.Span) (b : Bool) : Denotes (.scalar span (.flag b)) (.flag b)
  | integer (span : Toml.Span) (n : Int) :
      Denotes (.scalar span (.integer n)) (.number (.ofInt n))
  | real (span : Toml.Span) {l : Json.NumberLiteral} {x : Binary64}
      (hl : l.fraction ≠ none ∨ l.exponent ≠ none)
      (hx : Binary64.ofDecimal? l.digits l.power = some x) :
      Denotes (.scalar span (.real l.negative (.finite x))) (.number l)
  | array (span : Toml.Span) {ns : List Toml.Node} {ts : List Json.Tree}
      (h : List.Forall₂ Denotes ns ts) : Denotes (.array span ns) (.list ts)
  | tables {ns : List Toml.Node} {ts : List Json.Tree} (h : List.Forall₂ Denotes ns ts) :
      Denotes (.tables ns) (.list ts)
  | table (origin : Toml.Origin) (span : Option Toml.Span) {es : Toml.Entries}
      {ms : List (String × Json.Tree)} (h : DenotesTable es ms) :
      Denotes (.table origin span es) (.object ms)

/-- The entries of a table and the members of an object, each with the name and the data of the
other, in the same order. -/
inductive DenotesEach : Toml.Entries → List (String × Json.Tree) → Prop
  | nil : DenotesEach [] []
  | cons {k : Toml.Key} {n : Toml.Node} {t : Json.Tree} {es : Toml.Entries}
      {ms : List (String × Json.Tree)} (h : Denotes n t) (hr : DenotesEach es ms) :
      DenotesEach ((k, n) :: es) ((k.name, t) :: ms)

/-- A table and an object hold the same data, in any order. -/
inductive DenotesTable : Toml.Entries → List (String × Json.Tree) → Prop
  | reordered {es : Toml.Entries} {ms ns : List (String × Json.Tree)} (h : DenotesEach es ms)
      (hp : ms.Perm ns) : DenotesTable es ns

end

/-! ## Single values -/

/-- No kind accepts this. -/
def Found.Foreign (found : Found) : Prop := ∀ k : Kind, (k.accept found).toOption = none

theorem foreign_real (text : String) : (Found.real text).Foreign := by
  intro k
  cases k <;> rfl

/-- Outside 64 bits no kind accepts an integer. -/
theorem foreign_integer {n : Int} (h : n < -9223372036854775808 ∨ 18446744073709551615 < n) :
    (Found.integer n).Foreign := by
  intro k
  cases k with
  | int32 =>
    unfold Kind.accept
    dsimp only
    rw [if_neg (by omega)]
    rfl
  | word64 =>
    unfold Kind.accept
    dsimp only
    rw [if_neg (by omega)]
    rfl
  | text | path | flag | instant => rfl

theorem toOption_accept_of_isReal {x : Except Json.Fault Found} (h : Json.IsReal x) (k : Kind) :
    (do ((k.accept (← x)).mapError Json.Fault.mismatch)).toOption = none := by
  obtain ⟨text, rfl⟩ | rfl := h
  · exact (toOption_mapError _ _).trans (foreign_real text k)
  · rfl

/-- What the two show, or something that no kind accepts on either side. -/
theorem found_of_denotes {n : Toml.Node} {t : Json.Tree} (h : Denotes n t) :
    t.found = .ok n.found ∨ n.found.Foreign ∧ Json.IsReal t.found := by
  cases h with
  | text _ s => exact .inl rfl
  | flag _ b => exact .inl rfl
  | integer _ n =>
    by_cases hn : n < -9223372036854775808 ∨ 18446744073709551615 < n
    · exact .inr ⟨foreign_integer hn, Json.isReal_value_ofInt hn⟩
    · exact .inl (Json.value_ofInt_of_fits (by omega) (by omega))
  | real _ hl _ => exact .inr ⟨foreign_real _, Json.isReal_value hl⟩
  | array _ _ => exact .inl rfl
  | tables _ => exact .inl rfl
  | table _ _ _ => exact .inl rfl

theorem single_agrees (k : Kind) {n : Toml.Node} {t : Json.Tree} (h : Denotes n t) :
    (Toml.single k n).toOption = (t.single k).toOption := by
  unfold Toml.single Json.Tree.single
  rw [toOption_mapError]
  obtain hf | ⟨hn, ht⟩ := found_of_denotes h
  · rw [hf]
    exact (toOption_mapError _ _).symm
  · rw [hn k]
    exact (toOption_accept_of_isReal ht k).symm

/-- Nothing in a TOML document shows itself to be unset. -/
theorem found_ne_null (n : Toml.Node) : n.found ≠ .null := by
  cases n with
  | scalar span v => cases v <;> exact nofun
  | array _ _ | table _ _ _ | tables _ => exact nofun

theorem optional_agrees (k : Kind) {n : Toml.Node} {t : Json.Tree} (h : Denotes n t) :
    ((Toml.single k n).map some).toOption = (t.optional k).toOption := by
  have hne : t.found ≠ .ok .null := by
    obtain hf | ⟨_, ⟨text, hf⟩ | hf⟩ := found_of_denotes h
    · rw [hf]
      exact fun h => found_ne_null n (Except.ok.inj h)
    · rw [hf]
      exact nofun
    · rw [hf]
      exact nofun
  rw [Json.Tree.optional_eq hne, toOption_map, toOption_map, single_agrees k h]

/-! ## Lists and fields -/

theorem many_agrees (k : Kind) {n : Toml.Node} {t : Json.Tree} (h : Denotes n t) :
    (Toml.many k n).toOption = (t.many k).toOption := by
  have hlists : ∀ {ns ts}, List.Forall₂ Denotes ns ts →
      (ns.mapM (Toml.single k)).toOption = (ts.mapM (Json.Tree.single k)).toOption :=
    fun h => toOption_mapM (h.imp fun _ _ => single_agrees k)
  cases h with
  | array _ h => exact hlists h
  | tables h => exact hlists h
  | text _ _ | flag _ _ | integer _ _ | real _ _ _ | table _ _ _ =>
    exact (Json.Tree.toOption_many k fun _ h => Json.Tree.noConfusion h).symm

theorem shaped_agrees (s : Shape) {n : Toml.Node} {t : Json.Tree} (h : Denotes n t) :
    (Toml.shaped s n).toOption = (t.shaped s).toOption := by
  cases s with
  | one k => exact single_agrees k h
  | optional k => exact optional_agrees k h
  | many k => exact many_agrees k h

/-! ## Members -/

theorem Toml.member_here {f : Field} {name : String} (h : f.name = name) (n : Toml.Node)
    {fs : List Field} (slot : Option f.shape.Value) (slots : Slots fs) :
    Toml.member name n (f :: fs) (slot, slots) =
      (Toml.shaped f.shape n).map fun v => (some v, slots) :=
  if_pos h

theorem Toml.member_further {f : Field} {name : String} (h : f.name ≠ name) (n : Toml.Node)
    {fs : List Field} (slot : Option f.shape.Value) (slots : Slots fs) :
    Toml.member name n (f :: fs) (slot, slots) =
      (Toml.member name n fs slots).map fun slots => (slot, slots) :=
  if_neg h

/-- An entry fills the slot that the member fills, as long as it is empty. -/
theorem member_agrees {n : Toml.Node} {t : Json.Tree} (h : Denotes n t) (name : String)
    {fs : List Field} {slots : Slots fs} (hv : slots.Vacant name fs) :
    (Toml.member name n fs slots).toOption = (t.member name fs slots).toOption := by
  induction fs with
  | nil => rfl
  | cons f fs ih =>
    obtain ⟨slot, slots⟩ := slots
    obtain ⟨hslot, hv⟩ := hv
    by_cases hf : f.name = name
    · have hs := congrArg (Option.map fun v => (some v, slots)) (shaped_agrees f.shape h)
      rw [hslot hf, Toml.member_here hf, Json.Tree.member_here hf]
      exact (toOption_map _ _).trans (hs.trans (toOption_map _ _).symm)
    · have hs := congrArg (Option.map fun slots => (slot, slots)) (ih hv)
      rw [Toml.member_further hf, Json.Tree.member_further hf]
      exact (toOption_map _ _).trans (hs.trans (toOption_map _ _).symm)

/-- A member fills no slot but its own. -/
theorem vacant_of_member {n : Toml.Node} {name other : String} (hne : name ≠ other)
    {fs : List Field} {slots filled : Slots fs} (hv : slots.Vacant other fs)
    (hm : Toml.member name n fs slots = .ok filled) : filled.Vacant other fs := by
  induction fs with
  | nil => trivial
  | cons f fs ih =>
    obtain ⟨slot, slots⟩ := slots
    obtain ⟨hslot, hv⟩ := hv
    by_cases hf : f.name = name
    · rw [Toml.member_here hf] at hm
      cases hs : Toml.shaped f.shape n with
      | error e =>
        rw [hs] at hm
        cases hm
      | ok v =>
        rw [hs] at hm
        cases hm
        exact ⟨fun ho => absurd (hf.symm.trans ho) hne, hv⟩
    · rw [Toml.member_further hf] at hm
      cases hr : Toml.member name n fs slots with
      | error e =>
        rw [hr] at hm
        cases hm
      | ok rest =>
        rw [hr] at hm
        cases hm
        exact ⟨hslot, ih hv hr⟩

/-- Entries with names of their own fill the slots that the members fill. -/
theorem filled_agrees {es : Toml.Entries} {ms : List (String × Json.Tree)}
    (h : DenotesEach es ms) (hd : es.Distinct) {fs : List Field} {slots : Slots fs}
    (hv : ∀ name ∈ es.names, slots.Vacant name fs) :
    (es.foldlM Toml.addEntry slots).toOption = (Json.Tree.filled slots ms).toOption := by
  induction es generalizing ms slots with
  | nil =>
    cases h
    rfl
  | cons e es ih =>
    cases h with | @cons k n t _ ms hn hr =>
    obtain ⟨hk, hd⟩ := List.nodup_cons.mp hd
    have hadd : (Toml.addEntry slots (k, n)).toOption =
        (t.member k.name fs slots).toOption :=
      (toOption_mapError _ _).trans (member_agrees hn k.name (hv _ List.mem_cons_self))
    rw [List.foldlM_cons, Json.Tree.filled_cons, toOption_bind, toOption_bind, ← hadd]
    refine Option.bind_congr ?_
    intro filled hf
    have hm : Toml.member k.name n fs slots = .ok filled :=
      toOption_eq_some.mp ((toOption_mapError _ _).symm.trans hf)
    refine ih hr hd ?_
    intro name hn
    refine vacant_of_member ?_ (hv name (List.mem_cons_of_mem _ hn)) hm
    rintro rfl
    exact hk hn

/-! ## Whole tables -/

/-- The same data makes the same record in both notations, or makes none in either. -/
theorem toRecord_agrees {α : Type} (schema : Schema α) {es : Toml.Entries}
    {ms : List (String × Json.Tree)} (h : DenotesTable es ms) (hd : es.Distinct) (length : Nat) :
    (Toml.ofEntries schema length es).toOption = (Json.Tree.toRecord schema ms).toOption := by
  cases h with | @reordered _ ms' _ h hp =>
  have hvacant : ∀ name ∈ es.names, (Slots.none schema.fields).Vacant name schema.fields :=
    fun name _ => Slots.vacant_none name schema.fields
  have hfilled := (filled_agrees h hd hvacant).trans (Json.Tree.toOption_filled_of_perm hp _)
  unfold Toml.ofEntries Json.Tree.toRecord Json.Tree.fields
  rw [toOption_bind, hfilled, toOption_map, toOption_bind, Option.map_bind]
  refine Option.bind_congr ?_
  intro slots _
  rw [toOption_bind, toOption_mapError, Function.comp_apply, toOption_mapError]
  exact (Option.map_eq_bind).symm

/-! ## Refusals -/

theorem foldlM_addEntry_error {fs : List Field} {es : Toml.Entries} {slots : Slots fs}
    {fault : Toml.Fault} (h : es.foldlM Toml.addEntry slots = .error fault) :
    ∃ span cause, fault = .mismatch span cause := by
  induction es generalizing slots with
  | nil => cases h
  | cons e es ih =>
    rw [List.foldlM_cons] at h
    obtain ha | ⟨slots, _, hr⟩ := error_of_bind h
    · obtain ⟨complaint, rfl⟩ := error_of_mapError ha
      exact ⟨_, _, rfl⟩
    · exact ih hr

/-- What is refused in a well-formed TOML document is its data. -/
theorem ofEntries_error {α : Type} {schema : Schema α} {length : Nat} {es : Toml.Entries}
    {fault : Toml.Fault} (h : Toml.ofEntries schema length es = .error fault) :
    ∃ span cause, fault = .mismatch span cause := by
  obtain hf | ⟨slots, _, h⟩ := error_of_bind h
  · exact foldlM_addEntry_error hf
  · obtain hf | ⟨r, _, h⟩ := error_of_bind h
    · obtain ⟨cause, rfl⟩ := error_of_mapError hf
      exact ⟨_, _, rfl⟩
    · cases h

/-! ## Documents -/

/-- A TOML document and an object with the same data are read as the same record, or refused both,
whatever the record. -/
theorem decode_agrees {α : Type} (schema : Schema α) {s j : String} {es : Toml.Entries}
    {ms : List (String × Json.Tree)} (hs : Toml.parse s = some es) (hd : DenotesTable es ms)
    (hj : Json.DocumentSpelled ms j) :
    (∃ a, Toml.decode schema s = .ok a ∧ Json.decode schema j = .ok a) ∨
      ∃ span cause fault, Toml.decode schema s = .error (.mismatch span cause) ∧
        Json.decode schema j = .error fault ∧
        Json.Refusal (ms.flatMap (Json.Tree.seenIn schema.fields)) fault := by
  have hrecord := toRecord_agrees schema hd (Toml.distinct_of_parse hs) s.length
  have htoml : Toml.decode schema s = Toml.ofEntries schema s.length es := by
    unfold Toml.decode
    rw [hs]
  rw [htoml, Json.decode_of_spelled schema hj]
  cases hx : Toml.ofEntries schema s.length es with
  | ok a =>
    rw [hx] at hrecord
    exact .inl ⟨a, rfl, toOption_eq_some.mp hrecord.symm⟩
  | error fault =>
    rw [hx] at hrecord
    obtain ⟨span, cause, rfl⟩ := ofEntries_error hx
    obtain ⟨refused, hr⟩ := toOption_eq_none.mp hrecord.symm
    exact .inr ⟨span, cause, refused, rfl, hr, Json.refusal_of_toRecord hr⟩

namespace Config

/-- How the tables of a document came about, and where its values stand, makes no difference:
documents with the same data set the same options. -/
theorem parse_agrees {s t : String} {es fs : Toml.Entries} {ms : List (String × Json.Tree)}
    (hs : Toml.parse s = some es) (ht : Toml.parse t = some fs) (he : DenotesTable es ms)
    (hf : DenotesTable fs ms) : (parse s).toOption = (parse t).toOption := by
  have hentries := (toRecord_agrees GcloudOptions.schema he (Toml.distinct_of_parse hs)
    s.length).trans (toRecord_agrees GcloudOptions.schema hf (Toml.distinct_of_parse ht)
      t.length).symm
  unfold parse Toml.decode
  rw [hs, ht]
  exact hentries

/-- One table sets the same options in both notations, or is refused in both. Then TOML reports its
data, and so does JSON, unless a number in place of a text has digits that come to an infinite
value. -/
theorem both_notations_set_the_same_options {s j : String} {es : Toml.Entries}
    {ms : List (String × Json.Tree)} (hs : Toml.parse s = some es) (hd : DenotesTable es ms)
    (hj : Json.DocumentSpelled ms j) :
    (∃ options, parse s = .ok options ∧ Json.decode GcloudOptions.schema j = .ok options) ∨
      ∃ span cause fault, parse s = .error (.mismatch span cause) ∧
        Json.decode GcloudOptions.schema j = .error fault ∧
        Json.Refusal (ms.flatMap (Json.Tree.seenIn GcloudOptions.schema.fields)) fault :=
  decode_agrees GcloudOptions.schema hs hd hj

open Json

/-- The number in a table that sets two options and, under a dotted key, a switch and a number. -/
def switchedTo? : Toml.Entries → Option Binary64
  | [(⟨"extra", _⟩, .table _ _ [(⟨"on", _⟩, .array _ [.scalar _ (.flag true),
        .scalar _ (.real false (.finite x))])]),
      (⟨"flags_files", _⟩, .array _ [.scalar _ (.text "a")]),
      (⟨"verbosity", _⟩, .scalar _ (.text "info"))] => some x
  | _ => none

/-- Dotted keys, other digits, escapes and another order change nothing. -/
theorem an_object_in_another_order_sets_the_same_options :
    ∃ s j es ms, s = "extra.on = [true, 0.5]\nflags_files = [\"a\"]\nverbosity = \"info\"\n" ∧
      j = "\x7b \"verbosity\" : \"\\u0069nfo\",\"flags_files\":[\"a\"]," ++
        "\"extra\":\x7b\"on\":[true,5e-1]\x7d\x7d" ∧
      Toml.parse s = some es ∧ DenotesTable es ms ∧ DocumentSpelled ms j ∧
      decode GcloudOptions.schema j =
        .ok { flagsFiles := [⟨"a"⟩], verbosity := some "info" } := by
  let half : NumberLiteral := ⟨false, ['5'], none, some (true, ['1'])⟩
  let ms : List (String × Tree) := [("verbosity", .text "info"), ("flags_files", .list [.text "a"]),
    ("extra", .object [("on", .list [.flag true, .number half])])]
  let s := "extra.on = [true, 0.5]\nflags_files = [\"a\"]\nverbosity = \"info\"\n"
  have hdocument : ∃ es, Toml.parse s = some es ∧ DenotesTable es ms := by
    have hparsed : (Toml.parse s).bind switchedTo? = Binary64.ofDecimal? half.digits half.power ∧
        ((Toml.parse s).bind switchedTo?).isSome := by
      decide +kernel
    obtain ⟨x, hsome⟩ := Option.isSome_iff_exists.mp hparsed.2
    have hx : Binary64.ofDecimal? half.digits half.power = some x := hparsed.1.symm.trans hsome
    have hreal : half.fraction ≠ none ∨ half.exponent ≠ none := .inr (Option.some_ne_none _)
    have hon := fun a b => List.Forall₂.cons (Denotes.flag a true)
      (.cons (Denotes.real b hreal hx) .nil)
    obtain ⟨es, hs, he⟩ := Option.bind_eq_some_iff.mp hsome
    unfold switchedTo? at he
    split at he
    · cases he
      exact ⟨_, hs, .reordered
        (.cons (.table _ _ (.reordered (.cons (.array _ (hon _ _)) .nil) (.refl _)))
          (.cons (.array _ (.cons (.text _ "a") .nil)) (.cons (.text _ "info") .nil)))
        (List.reverse_perm ms)⟩
    · cases he
  have hspelled : DocumentSpelled ms
      ("\x7b \"verbosity\" : \"\\u0069nfo\",\"flags_files\":[\"a\"]," ++
        "\"extra\":\x7b\"on\":[true,5e-1]\x7d\x7d") := by
    have hnone : Blanks [] := List.forall_mem_nil _
    have hone : Blanks [' '] := List.forall_mem_singleton.mpr rfl
    have hcomma : Separator false [','] := .next hnone hnone
    have hdigit : ∀ c : Char, c.isDigit = true → Digits [c] :=
      fun c hc => ⟨List.cons_ne_nil c [], List.forall_mem_singleton.mpr hc⟩
    have hhalf : LiteralSpelled half "5e-1".toList :=
      .parts (hdigit '5' rfl) (fun _ => rfl) .absent
        (.digits (.inl rfl) .minus (hdigit '1' rfl))
    have hi : HexSpelled 0x69 "0069".toList :=
      @HexSpelled.digits '0' '0' '6' '9' 0 0 6 9 rfl rfl rfl rfl
    have hinfo : StringSpelled "info" _ :=
      .quoted (.cons (.numbered hi rfl rfl) (charsSpelled_escape "nfo".toList))
    have hon := Spelled.list (.cons (.first hnone) (.flag true)
      (.cons hcomma (.number hhalf) (.close hnone)))
    have hextra := Spelled.object (.cons (.first hnone) (stringSpelled_quote "on") hnone hnone hon
      (.close hnone))
    have hflags := Spelled.list (.cons (.first hnone) (.text (stringSpelled_quote "a"))
      (.close hnone))
    exact .object hnone (.object
      (.cons (.first hone) (stringSpelled_quote "verbosity") hone hone (.text hinfo)
        (.cons hcomma (stringSpelled_quote "flags_files") hnone hnone hflags
          (.cons hcomma (stringSpelled_quote "extra") hnone hnone hextra (.close hnone)))))
      hnone (by decide +kernel)
  obtain ⟨es, hs, hd⟩ := hdocument
  have hparse : parse s = .ok { flagsFiles := [⟨"a"⟩], verbosity := some "info" } := by
    decide +kernel
  refine ⟨s, _, es, ms, rfl, rfl, hs, hd, hspelled, ?_⟩
  obtain ⟨options, ht, hj⟩ | ⟨_, _, _, ht, _⟩ :=
    both_notations_set_the_same_options hs hd hspelled
  · cases hparse.symm.trans ht
    exact hj
  · cases hparse.symm.trans ht

/-- The number in a table that holds it and nothing else. -/
def verbosityOf? : Toml.Entries → Option Binary64
  | [(⟨"verbosity", _⟩, .scalar _ (.real false (.finite x)))] => some x
  | _ => none

/-- The greatest number, with one digit more than it takes, is finite in TOML and infinite in JSON,
where the text is then no well-formed one. -/
theorem the_greatest_number_is_refused_for_two_reasons :
    ∃ s j es ms, s = "verbosity = 1.7976931348623158e308" ∧
      j = "\x7b\"verbosity\":1.7976931348623158e308\x7d" ∧
      Toml.parse s = some es ∧ DenotesTable es ms ∧ DocumentSpelled ms j ∧
      (∃ span cause, parse s = .error (.mismatch span cause)) ∧
      decode GcloudOptions.schema j = .error .malformed := by
  let l : NumberLiteral :=
    ⟨false, ['1'], some "7976931348623158".toList, some (false, ['3', '0', '8'])⟩
  let ms : List (String × Tree) := [("verbosity", .number l)]
  let s := "verbosity = 1.7976931348623158e308"
  have hdocument : ∃ es, Toml.parse s = some es ∧ DenotesTable es ms := by
    have hparsed : (Toml.parse s).bind verbosityOf? = Binary64.ofDecimal? l.digits l.power ∧
        ((Toml.parse s).bind verbosityOf?).isSome := by
      decide +kernel
    obtain ⟨x, hsome⟩ := Option.isSome_iff_exists.mp hparsed.2
    have hx : Binary64.ofDecimal? l.digits l.power = some x := hparsed.1.symm.trans hsome
    have hreal : l.fraction ≠ none ∨ l.exponent ≠ none := .inl (Option.some_ne_none _)
    obtain ⟨es, hs, he⟩ := Option.bind_eq_some_iff.mp hsome
    unfold verbosityOf? at he
    split at he
    · cases he
      exact ⟨_, hs, .reordered (.cons (.real _ hreal hx) .nil) (.refl _)⟩
    · cases he
  have hspelled : DocumentSpelled ms "\x7b\"verbosity\":1.7976931348623158e308\x7d" := by
    have hnone : Blanks [] := List.forall_mem_nil _
    have hl : LiteralSpelled l "1.7976931348623158e308".toList :=
      .parts (by decide +kernel) (fun _ => rfl) (.digits (by decide +kernel))
        (.digits (.inl rfl) .absent (by decide +kernel))
    exact .object hnone (.object (.cons (.first hnone) (stringSpelled_quote "verbosity") hnone hnone
      (.number hl) (.close hnone))) hnone (by decide +kernel)
  obtain ⟨es, hs, hd⟩ := hdocument
  have hfound : parse s = .error (.mismatch ⟨22, 0⟩ (.wrongType
      (.real (Toml.realText false (.finite ⟨9007199254740991, 971⟩))) .text)) := by decide +kernel
  exact ⟨s, _, es, ms, rfl, rfl, hs, hd, hspelled, ⟨_, _, hfound⟩, by decide +kernel⟩

end Config

end AppVersions
