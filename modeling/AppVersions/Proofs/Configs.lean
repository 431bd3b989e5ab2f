-- The laws of configuration files: a document that writes the set fields of options, in any layout
-- and order, is read as these options, and what the command line sets wins over it field by field.
import AppVersions.Proofs.Discovery
import AppVersions.Proofs.Json.Forms
import AppVersions.Proofs.Layers
import AppVersions.Proofs.Toml.Documents
import AppVersions.Proofs.Utf8

namespace AppVersions

/-! ## Records without what is unset -/

namespace Json.Tree

/-- A member for a value that is there. -/
def memberOf (key : String) (v : Option Tree) : List (String × Tree) :=
  (v.map fun t => (key, t)).toList

/-- The tree of a field that is set. An empty list sets nothing. -/
def ofSet : (s : Shape) → s.Value → Option Tree
  | .one k, v => some (ofSingle k v)
  | .optional k, v => Option.map (ofSingle k) v
  | .many k, vs => if List.isEmpty vs then none else some (.list (List.map (ofSingle k) vs))

/-- The members of the fields that are set. -/
def setMembers : (fs : List Field) → Record fs → List (String × Tree)
  | [], _ => []
  | f :: fs, (v, r) => memberOf f.name (ofSet f.shape v) ++ setMembers fs r

variable {fs : List Field}

theorem shaped_of_set {s : Shape} {v : s.Value} {t : Tree} (h : ofSet s v = some t) :
    t.shaped s = .ok v := by
  have ht : t = ofShape s v := by
    cases s with
    | one k =>
      cases h
      rfl
    | optional k =>
      obtain _ | v := v
      · cases h
      · cases h
        rfl
    | many k =>
      obtain _ | ⟨v, vs⟩ := v
      · cases h
      · cases h
        rfl
  rw [ht]
  exact shaped_ofShape s v

/-- What is not set is what is there when nothing is said, if that may be. -/
theorem unnamed_of_unset {f : Field} (hd : f.defaults = true) {v : f.shape.Value}
    (h : ofSet f.shape v = none) : f.unnamed? = some v := by
  obtain ⟨name, shape, defaults⟩ := f
  obtain rfl : defaults = true := hd
  cases shape with
  | one k => cases h
  | optional k =>
    obtain _ | v := v
    · rfl
    · cases h
  | many k =>
    obtain _ | ⟨v, vs⟩ := v
    · rfl
    · cases h

theorem names_memberOf (key : String) (v : Option Tree) :
    ((memberOf key v).map Prod.fst).Sublist [key] := by
  cases v with
  | none => exact List.nil_sublist _
  | some t => exact .refl _

theorem names_setMembers (r : Record fs) :
    ((setMembers fs r).map Prod.fst).Sublist (fs.map (·.name)) := by
  induction fs with
  | nil => exact .refl _
  | cons f fs ih =>
    obtain ⟨v, r⟩ := r
    show ((memberOf f.name (ofSet f.shape v) ++ setMembers fs r).map Prod.fst).Sublist _
    rw [List.map_append]
    exact (names_memberOf f.name _).append (ih r)

/-- The members that are set make the record. -/
theorem fields_setMembers (hn : (fs.map (·.name)).Nodup) (hd : ∀ f ∈ fs, f.defaults = true)
    (r : Record fs) : fields fs (setMembers fs r) = .ok r := by
  induction fs with
  | nil => rfl
  | cons f fs ih =>
    obtain ⟨v, r⟩ := r
    rw [List.map_cons, List.nodup_cons] at hn
    obtain ⟨hf, hd⟩ := List.forall_mem_cons.mp hd
    have hother : ∀ m ∈ setMembers fs r, f.name ≠ m.1 := by
      intro m hm he
      exact hn.1 (he ▸ (names_setMembers r).subset (List.mem_map_of_mem hm))
    show fields (f :: fs) (memberOf f.name (ofSet f.shape v) ++ setMembers fs r) = _
    cases hv : ofSet f.shape v with
    | none =>
      show fields (f :: fs) (setMembers fs r) = _
      rw [fields_cons_unnamed hother (unnamed_of_unset hf hv), ih hn.2 hd]
      rfl
    | some t =>
      show fields (f :: fs) ((f.name, t) :: setMembers fs r) = _
      rw [fields_cons hother, shaped_of_set hv, ih hn.2 hd]
      rfl

theorem toRecord_setMembers {α : Type} (schema : Schema α)
    (hd : ∀ f ∈ schema.fields, f.defaults = true) (a : α) :
    toRecord schema (setMembers schema.fields (schema.toRecord a)) = .ok a := by
  unfold toRecord
  rw [fields_setMembers schema.names_nodup hd]
  exact congrArg Except.ok (schema.ofRecord_toRecord a)

end Json.Tree

namespace Config

open Json (Tree)
open Json.Tree (memberOf)

/-! ## What a file says -/

/-- The list of these paths, unless there are none. -/
def texts (ps : List Path) : Option Tree :=
  if ps.isEmpty then none else some (.list (ps.map fun p => .text p.text))

/-- The keys of a configuration file with their values, for the options that are set. -/
def written (o : GcloudOptions) : List (String × Tree) :=
  [memberOf "metrics_environment" (o.metricsEnvironment.map .text),
    memberOf "metrics_environment_version" (o.metricsEnvironmentVersion.map .text),
    memberOf "credential_file" (o.credentialFile.map fun p => .text p.text),
    memberOf "flags_files" (texts o.flagsFiles),
    memberOf "output_format" (o.outputFormat.map .text),
    memberOf "show_structured_logs" (o.showStructuredLogs.map .text),
    memberOf "verbosity" (o.verbosity.map .text)].flatten

/-- A document writes the options that are set, and nothing else: each under its key, in any order,
in any spelling, and with anything between them that says nothing. -/
def Writes (o : GcloudOptions) (doc : String) : Prop :=
  ∃ ms, ms.Perm (written o) ∧ Toml.DocumentSpelled ms doc

theorem written_eq (o : GcloudOptions) :
    written o = Tree.setMembers GcloudOptions.schema.fields (GcloudOptions.schema.toRecord o) :=
  rfl

theorem writable_of_mem_text {α : Type} {key : String} {text : α → String} {v : Option α}
    {m : String × Tree} (h : m ∈ memberOf key (v.map fun a => .text (text a))) :
    Toml.Writable m.2 := by
  cases v with
  | none => cases h
  | some a =>
    obtain rfl := List.mem_singleton.mp h
    exact .text (text a)

theorem writable_of_mem_texts {key : String} {ps : List Path} {m : String × Tree}
    (h : m ∈ memberOf key (texts ps)) : Toml.Writable m.2 := by
  unfold texts at h
  split at h
  · cases h
  · obtain rfl := List.mem_singleton.mp h
    have hw := Toml.Writable.texts (ps.map Path.text)
    rwa [List.map_map] at hw

theorem writable_of_mem_written {o : GcloudOptions} {m : String × Tree} (h : m ∈ written o) :
    Toml.Writable m.2 := by
  obtain ⟨ms, hms, hm⟩ := List.mem_flatten.mp h
  simp only [List.mem_cons, List.not_mem_nil, or_false] at hms
  rcases hms with rfl | rfl | rfl | rfl | rfl | rfl | rfl
  · exact writable_of_mem_text hm
  · exact writable_of_mem_text hm
  · exact writable_of_mem_text hm
  · exact writable_of_mem_texts hm
  · exact writable_of_mem_text hm
  · exact writable_of_mem_text hm
  · exact writable_of_mem_text hm

theorem exists_writes (o : GcloudOptions) : ∃ doc, Writes o doc := by
  obtain ⟨doc, h⟩ := Toml.exists_documentSpelled fun m hm => writable_of_mem_written (o := o) hm
  exact ⟨doc, _, .refl _, h⟩

/-! ## Reading it -/

/-- What is written for options is read as them. -/
theorem parse_of_writes {o : GcloudOptions} {doc : String} (h : Writes o doc) :
    parse doc = .ok o := by
  obtain ⟨ms, hp, hdoc⟩ := h
  have hnames : (ms.map Prod.fst).Nodup := by
    rw [(hp.map Prod.fst).nodup_iff, written_eq]
    exact GcloudOptions.schema.names_nodup.sublist (Tree.names_setMembers _)
  obtain ⟨es, hes, hd⟩ := Toml.parse_of_spelled hdoc hnames
  have hrecord := toRecord_agrees GcloudOptions.schema (.reordered hd hp)
    (Toml.distinct_of_parse hes) doc.length
  rw [written_eq, Tree.toRecord_setMembers _ (by decide)] at hrecord
  unfold parse Toml.decode
  rw [hes]
  exact toOption_eq_some.mp hrecord

theorem resolve_of_text {host : Host} {p : Path} {doc : String} {o : GcloudOptions}
    (h : host.readText p = .ok doc) (ho : parse doc = .ok o) (commandLine : GcloudOptions) :
    (resolve host (some p) commandLine).run.value = .ok (o.merge commandLine) := by
  have hload : (load host p).run.value = .ok o := by
    unfold load
    rw [h]
    dsimp only
    rw [ho]
    rfl
  unfold resolve
  dsimp only
  rw [ExceptT.run_bind, Traced.value_bind, hload]
  rfl

theorem resolve_without_file (host : Host) (commandLine : GcloudOptions) :
    (resolve host none commandLine).run.value = .ok commandLine :=
  congrArg Except.ok commandLine.unset_merge

/-! ## Both together -/

/-- Whatever options there are, a document can write them, and every document that does is read as
them. Under a command line they are what it leaves open, field by field, and its flags files replace
theirs if it has any. So options that are divided between the two come back whole. -/
theorem file_and_command_line_compose_field_by_field :
    (∀ (host : Host) (c : GcloudOptions), (resolve host none c).run.value = .ok c) ∧
      ∀ f : GcloudOptions, (∃ doc, Writes f doc) ∧ ∀ doc, Writes f doc →
        parse doc = .ok f ∧
        ∀ (host : Host) (p : Path), host.readFile p = .ok (Text.Utf8.bytes doc) →
          (∀ c : GcloudOptions, ∃ o, (resolve host (some p) c).run.value = .ok o ∧
            (∀ x : GcloudOptions.Choice, x.of o = (x.of c).or (x.of f)) ∧
            o.flagsFiles = if c.flagsFiles = [] then f.flagsFiles else c.flagsFiles) ∧
          ∀ o c : GcloudOptions, o.Divides f c → (resolve host (some p) c).run.value = .ok o := by
  refine ⟨resolve_without_file, fun f => ⟨exists_writes f, fun doc hdoc => ?_⟩⟩
  have hparse := parse_of_writes hdoc
  refine ⟨hparse, fun host p hfile => ?_⟩
  have hresolve := resolve_of_text (Host.readText_of_bytes hfile) hparse
  constructor
  · intro c
    exact ⟨_, hresolve c, fun x => GcloudOptions.of_merge x f c, GcloudOptions.flagsFiles_merge f c⟩
  · intro o c ho
    rw [hresolve, GcloudOptions.merge_of_divides ho]

/-- A file with a comment, escapes and a list over two lines sets the credentials and the flags
files, and the command line the rest. -/
theorem a_commented_file_and_a_verbosity_come_back_whole :
    let f : GcloudOptions := { credentialFile := some ⟨"\\k"⟩, flagsFiles := [⟨"a"⟩, ⟨""⟩] }
    let c : GcloudOptions := { verbosity := some "info" }
    let o : GcloudOptions := { f with verbosity := some "info" }
    let doc := "# keys\r\nflags_files = [\n\"\\u0061\", \"\",] #\n\n'credential_file'=\"\\\\k\""
    let m := Sdk.machineOf [(["gaeops.toml".toList], .file 0o644 (Text.Utf8.bytes doc))] "/usr/bin"
    Writes f doc ∧ o.Divides f c ∧
      m.host.readFile ⟨"/gaeops.toml"⟩ = .ok (Text.Utf8.bytes doc) ∧
      (resolve m.host (some ⟨"/gaeops.toml"⟩) c).run.value = .ok o := by
  intro f c o doc m
  have hwrites : Writes f doc := by
    have hnone : Toml.Blanks [] := List.forall_mem_nil _
    have hone : Toml.Blanks [' '] := List.forall_mem_singleton.mpr rfl
    have hempty : Toml.Trailing [] := .blanks hnone
    have hgap : Toml.Filler [' '] := .blanks hone
    have hfeed : Toml.Filler ['\n'] := .line hempty .feed (.blanks hnone)
    have hcomment : Toml.Trailing "# keys".toList := .comment hnone (List.all_eq_true.mp rfl)
    have hlast : Toml.Trailing [' ', '#'] := .comment hone (List.forall_mem_nil _)
    have hhex : Toml.HexSpelled 0x61 ['0', '0', '6', '1'] := Toml.hexSpelled_pair (by decide)
    have ha : Toml.StringSpelled "a" "\"\\u0061\"".toList :=
      .quoted (.cons (.numbered hhex (by decide) (by decide)) .close)
    have hk : Toml.StringSpelled "\\k" "\"\\\\k\"".toList :=
      .quoted (.cons (.short (by decide)) (.cons (.plain (by decide) (by decide) rfl) .close))
    have helements : Toml.ElementsSpelled true ["a", ""] _ :=
      .cons (.first hfeed) ha (.cons (.next (.blanks hnone) hgap) (.quoted .close)
        (.comma (.blanks hnone) (.blanks hnone)))
    have hfiles : Toml.AssignmentSpelled "flags_files" (.list [.text "a", .text ""]) _ :=
      .pair (.bare (by decide) (List.all_eq_true.mp rfl)) hone hone (.texts helements)
    have hcredentials : Toml.AssignmentSpelled "credential_file" (.text "\\k") _ :=
      .pair (.literal (by decide) (List.all_eq_true.mp rfl)) hnone hnone (.text hk)
    refine ⟨_, .swap _ _ [], .unmarked (.idle hcomment .pair (.assign hnone hfiles hlast
      (.next .feed _) (.idle hempty .feed (.assign hnone hcredentials hempty .atEnd
        (.done hempty))))) ?_⟩
    decide +kernel
  have hdivides : o.Divides f c := by
    refine ⟨fun x => ?_, .inl ⟨rfl, rfl⟩⟩
    cases x with
    | verbosity => exact .inr ⟨rfl, rfl⟩
    | metricsEnvironment | metricsEnvironmentVersion | credentialFile | outputFormat
    | showStructuredLogs => exact .inl ⟨rfl, rfl⟩
  have hfile : m.host.readFile ⟨"/gaeops.toml"⟩ = .ok (Text.Utf8.bytes doc) := by
    decide +kernel
  obtain ⟨-, hall⟩ := file_and_command_line_compose_field_by_field
  exact ⟨hwrites, hdivides, hfile, (((hall f).2 doc hwrites).2 m.host _ hfile).2 o c hdivides⟩

end Config

end AppVersions
