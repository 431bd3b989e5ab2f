-- The laws of the flags in a command: those that are due stand in a fixed order after the versions,
-- and a text that looks like one of them is passed on like any other.
import AppVersions.Proofs.Requests
import Mathlib.Data.List.Nodup

namespace AppVersions

/-! ## Flags that are due -/

/-- The flags of fields that may be unset, in the order of a command. -/
def optionalFlags : List String :=
  ["--service", "--project", "--hide-no-traffic", "--format", "--verbosity",
    "--credential-file-override", "--flags-file"]

def timesSet {α : Type} (value : Option α) : Nat := if value.isSome then 1 else 0

/-- How often each flag is due: once for a field that is set, and once for each flags file. -/
def timesDue (op : Operation) (o : GcloudOptions) : List (String × Nat) :=
  [("--service", timesSet op.service?), ("--project", timesSet op.project?),
    ("--hide-no-traffic", timesSet op.hideNoTraffic?), ("--format", timesSet o.outputFormat),
    ("--verbosity", timesSet o.verbosity),
    ("--credential-file-override", timesSet o.credentialFile),
    ("--flags-file", o.flagsFiles.length)]

/-- The flags that are due with their values, in their order. -/
def dueFlags (op : Operation) (o : GcloudOptions) : List (String × String) :=
  op.service?.toList.map ("--service", ·) ++ op.project?.toList.map ("--project", ·) ++
    op.hideNoTraffic?.toList.map (fun b => ("--hide-no-traffic", if b then "true" else "false")) ++
    o.outputFormat.toList.map ("--format", ·) ++ o.verbosity.toList.map ("--verbosity", ·) ++
    o.credentialFile.toList.map (fun p => ("--credential-file-override", p.text)) ++
    o.flagsFiles.map fun p => ("--flags-file", p.text)

/-- The texts of a command that are given and not made: the path of gcloud, the versions and the
values of the flags. -/
def givenTexts (gcloud : Path) (op : Operation) (o : GcloudOptions) : List String :=
  gcloud.text :: (op.versions ++ (dueFlags op o).map Prod.snd)

/-! ## Pairs of tokens -/

/-- Each flag followed by its value. -/
def pairTokens (pairs : List (String × String)) : List String := pairs.flatMap fun p => [p.1, p.2]

theorem pairTokens_append (pairs more : List (String × String)) :
    pairTokens (pairs ++ more) = pairTokens pairs ++ pairTokens more := List.flatMap_append

theorem flagTokens_eq_pairTokens (fields : List (String × Option String)) :
    flagTokens fields =
      pairTokens (fields.flatMap fun f => f.2.toList.map ("--" ++ f.1, ·)) := by
  induction fields with
  | nil => rfl
  | cons field fields ih =>
    obtain ⟨name, _ | v⟩ := field
    · rw [flagTokens_cons_none, ih]
      rfl
    · rw [flagTokens_cons_some, ih]
      rfl

theorem fileTokens_eq_pairTokens (files : List Path) :
    fileTokens files = pairTokens (files.map fun p => ("--flags-file", p.text)) := by
  unfold fileTokens pairTokens
  rw [List.flatMap_map]

theorem count_pairTokens (t : String) (pairs : List (String × String)) :
    (pairTokens pairs).count t = (pairs.map Prod.fst).count t + (pairs.map Prod.snd).count t := by
  induction pairs with
  | nil => rfl
  | cons p pairs ih =>
    unfold pairTokens at ih ⊢
    rw [List.flatMap_cons, List.count_append, ih]
    simp only [List.count_cons, List.map_cons, List.count_nil]
    omega

theorem filter_pairTokens {p : String → Bool} {pairs : List (String × String)}
    (hf : ∀ t ∈ pairs.map Prod.fst, p t = true) (hv : ∀ t ∈ pairs.map Prod.snd, p t = false) :
    (pairTokens pairs).filter p = pairs.map Prod.fst := by
  induction pairs with
  | nil => rfl
  | cons q pairs ih =>
    simp only [List.map_cons, List.forall_mem_cons] at hf hv
    have hq : [q.1, q.2].filter p = [q.1] := by simp [hf.1, hv.1]
    unfold pairTokens at ih ⊢
    rw [List.flatMap_cons, List.filter_append, hq, ih hf.2 hv.2]
    rfl

/-! ## Counting -/

/-- A token of a table in which none stands twice occurs as often as the table says. -/
theorem count_of_table {table : List (String × Nat)} (hd : (table.map Prod.fst).Nodup) {t : String}
    {n : Nat} (h : (t, n) ∈ table) :
    (table.flatMap fun e => List.replicate e.2 e.1).count t = n := by
  induction table with
  | nil => cases h
  | cons e table ih =>
    simp only [List.map_cons, List.nodup_cons] at hd
    rw [List.flatMap_cons, List.count_append, List.count_replicate]
    rcases List.mem_cons.mp h with rfl | hm
    · have hz : (table.flatMap fun e => List.replicate e.2 e.1).count t = 0 := by
        rw [List.count_eq_zero]
        intro hc
        obtain ⟨e, he, hr⟩ := List.mem_flatMap.mp hc
        have hm := List.mem_map_of_mem (f := Prod.fst) he
        rw [← List.eq_of_mem_replicate hr] at hm
        exact hd.1 hm
      simp [hz]
    · have hne : (e.1 == t) = false := by
        rw [beq_eq_false_iff_ne]
        intro he
        have hm := List.mem_map_of_mem (f := Prod.fst) hm
        rw [← he] at hm
        exact hd.1 hm
      rw [hne, ih hd.2 hm]
      simp

theorem map_fst_of_value {α : Type} (t : String) (text : α → String) (value : Option α) :
    (value.toList.map fun a => (t, text a)).map Prod.fst = List.replicate (timesSet value) t := by
  cases value <;> rfl

theorem map_fst_dueFlags (op : Operation) (o : GcloudOptions) :
    (dueFlags op o).map Prod.fst =
      (timesDue op o).flatMap fun e => List.replicate e.2 e.1 := by
  have hv := fun (t : String) (value : Option String) => map_fst_of_value t id value
  have hf : (o.flagsFiles.map fun p => ("--flags-file", p.text)).map Prod.fst =
      List.replicate o.flagsFiles.length "--flags-file" := by
    rw [List.map_map]
    exact List.map_const ..
  simp only [id] at hv
  unfold dueFlags
  simp only [List.map_append, map_fst_of_value, hv, hf]
  simp [timesDue]

theorem timesDue_nodup (op : Operation) (o : GcloudOptions) :
    ((timesDue op o).map Prod.fst).Nodup := by
  show optionalFlags.Nodup
  decide

theorem mem_optionalFlags_of_due {op : Operation} {o : GcloudOptions} {t : String}
    (h : t ∈ (dueFlags op o).map Prod.fst) : t ∈ optionalFlags := by
  rw [map_fst_dueFlags] at h
  obtain ⟨e, he, hr⟩ := List.mem_flatMap.mp h
  rw [List.eq_of_mem_replicate hr]
  exact List.mem_map_of_mem (f := Prod.fst) he

/-! ## Whole commands -/

theorem toList_map_map {α : Type} (t : String) (text : α → String) (value : Option α) :
    (value.map text).toList.map (t, ·) = value.toList.map fun a => (t, text a) := by
  cases value <;> rfl

theorem commandTail_eq_pairTokens (op : Operation) (o : GcloudOptions) :
    commandTail op o = pairTokens (dueFlags op o) := by
  unfold commandTail
  rw [flagTokens_eq_pairTokens, fileTokens_eq_pairTokens, ← pairTokens_append]
  congr 1
  unfold dueFlags
  cases op with
  | start s | stop s | delete s | list l =>
    simp [Operation.fields, GcloudOptions.fields, Operation.service?, Operation.project?,
      Operation.hideNoTraffic?, toList_map_map]

/-- A command apart from the flags that it is due. -/
theorem commandLine_eq_pairTokens (gcloud : Path) {op : Operation} {arguments : List String}
    (o : GcloudOptions) (h : op.arguments = .ok arguments) :
    commandLine gcloud arguments o =
      gcloud.text :: "app" :: "versions" :: op.name :: (op.versions ++ pairTokens (dueFlags op o))
    := by
  rw [commandLine_eq gcloud o h, commandTail_eq_pairTokens]

theorem name_not_flag (op : Operation) : op.name ∉ optionalFlags := by
  cases op with
  | start s | stop s | delete s | list l => simp [Operation.name, optionalFlags]

/-- A flag stands in a command where it is due, and where it was given as a text. -/
theorem count_commandLine {gcloud : Path} {op : Operation} {arguments : List String}
    {o : GcloudOptions} (h : op.arguments = .ok arguments) {t : String} (ht : t ∈ optionalFlags) :
    (commandLine gcloud arguments o).count t =
      ((dueFlags op o).map Prod.fst).count t + (givenTexts gcloud op o).count t := by
  have hn : op.name ≠ t := by
    rintro rfl
    exact name_not_flag op ht
  have ha : "app" ≠ t := by
    rintro rfl
    exact absurd ht (by decide)
  have hv : "versions" ≠ t := by
    rintro rfl
    exact absurd ht (by decide)
  rw [commandLine_eq_pairTokens gcloud o h]
  unfold givenTexts
  simp only [List.count_cons, List.count_append, count_pairTokens, beq_iff_eq, hn, ha, hv]
  simp only [if_false]
  omega

/-- The flags of a command are those that are due exactly if no text that was given is one. -/
theorem filter_commandLine_eq_iff {gcloud : Path} {op : Operation} {arguments : List String}
    {o : GcloudOptions} (h : op.arguments = .ok arguments) :
    (commandLine gcloud arguments o).filter (· ∈ optionalFlags) = (dueFlags op o).map Prod.fst ↔
      ∀ text ∈ givenTexts gcloud op o, text ∉ optionalFlags := by
  constructor
  · intro hf text hg ht
    have hc : (commandLine gcloud arguments o).count text = _ := count_commandLine h ht
    have hp : 0 < (givenTexts gcloud op o).count text := List.count_pos_iff.mpr hg
    rw [← hf, List.count_filter (by simpa using ht)] at hc
    omega
  · intro hg
    unfold givenTexts at hg
    rw [List.forall_mem_cons, List.forall_mem_append] at hg
    obtain ⟨hp, hv, hd⟩ := hg
    have hversions : op.versions.filter (· ∈ optionalFlags) = [] := by
      rw [List.filter_eq_nil_iff]
      simpa using hv
    have hflags : (pairTokens (dueFlags op o)).filter (· ∈ optionalFlags) =
        (dueFlags op o).map Prod.fst := by
      refine filter_pairTokens ?_ ?_
      · intro t ht
        exact decide_eq_true (mem_optionalFlags_of_due ht)
      · intro t ht
        exact decide_eq_false (hd t ht)
    have happ : "app" ∉ optionalFlags := by decide
    have hvs : "versions" ∉ optionalFlags := by decide
    rw [commandLine_eq_pairTokens gcloud o h]
    simp [hp, happ, hvs, name_not_flag, hversions, hflags]

/-! ## The law -/

/-- The command of a request is the path of gcloud, the operation with its versions, and the flags
that are due with their values, once for each field that is set and once for each flags file, in one
fixed order. What is given is passed on as it is, so a flag occurs as often as it is due and as
often as it was given as a text; the flags that occur are those that are due, in their order,
exactly if no text that was given is one of them. -/
theorem flags_occur_when_due_and_when_given {s : Session} {c : Script} {op : Operation}
    {q : SpawnRequest} (h : .spawn q ∈ (s.step c (.operate op)).run.calls) :
    let gcloud := absolute s.currentDirectory c.gcloud
    let due := dueFlags op s.options
    q.command =
        gcloud.text :: "app" :: "versions" :: op.name :: (op.versions ++ pairTokens due) ∧
      due.map Prod.fst = (timesDue op s.options).flatMap (fun e => List.replicate e.2 e.1) ∧
      (∀ t n, (t, n) ∈ timesDue op s.options →
        q.command.count t = n + (givenTexts gcloud op s.options).count t) ∧
      (q.command.filter (· ∈ optionalFlags) = due.map Prod.fst ↔
        ∀ text ∈ givenTexts gcloud op s.options, text ∉ optionalFlags) := by
  intro gcloud due
  obtain ⟨arguments, ha, rfl⟩ := request_of_spawn h
  refine ⟨commandLine_eq_pairTokens gcloud s.options ha, map_fst_dueFlags op s.options, ?_,
    filter_commandLine_eq_iff ha⟩
  intro t n ht
  have ho : t ∈ optionalFlags := List.mem_map_of_mem (f := Prod.fst) ht
  show (commandLine gcloud arguments s.options).count t = _
  rw [count_commandLine ha ho, map_fst_dueFlags, count_of_table (timesDue_nodup op s.options) ht]

/-- Of two flags files one is named like the flag, and the service is named like another flag. -/
theorem flags_of_a_listing_with_values_like_flags :
    let o : GcloudOptions :=
      { outputFormat := some "json", flagsFiles := [⟨"--flags-file"⟩, ⟨"/a.yaml"⟩] }
    let op : Operation := .list { service := some "--project", hideNoTraffic := some false }
    let s : Session := ⟨o, "linux", none, "a"⟩
    let c : Script := ⟨.ok (), ⟨"/sdk/bin/gcloud"⟩, .ok (), .ok ()⟩
    let q : SpawnRequest := ⟨["/sdk/bin/gcloud", "app", "versions", "list", "--service",
      "--project", "--hide-no-traffic", "false", "--format", "json", "--flags-file",
      "--flags-file", "--flags-file", "/a.yaml"], none, o.overlay "linux"⟩
    .spawn q ∈ (s.step c (.operate op)).run.calls ∧ q.command.count "--flags-file" = 2 + 1 ∧
      q.command.count "--project" = 0 + 1 ∧ q.command.count "--format" = 1 + 0 := by
  intro o op s c q
  have h : .spawn q ∈ (s.step c (.operate op)).run.calls := by decide
  obtain ⟨_, _, hc, _⟩ := flags_occur_when_due_and_when_given h
  refine ⟨h, (hc "--flags-file" 2 (by decide)).trans ?_, (hc "--project" 0 (by decide)).trans ?_,
    (hc "--format" 1 (by decide)).trans ?_⟩
  · decide
  · decide
  · decide

/-- A version and a value that look like flags stand in the command as flags of fields that are
unset. -/
theorem versions_and_values_may_look_like_flags :
    let o : GcloudOptions := { verbosity := some "--format" }
    let op : Operation := .stop { versions := ["--service"] }
    let s : Session := ⟨o, "linux", none, "a"⟩
    let c : Script := ⟨.ok (), ⟨"/sdk/bin/gcloud"⟩, .ok (), .ok ()⟩
    ∃ q, .spawn q ∈ (s.step c (.operate op)).run.calls ∧
      op.service? = none ∧ q.command.count "--service" = 1 ∧
      o.outputFormat = none ∧ q.command.count "--format" = 1 := by
  intro o op s c
  refine ⟨⟨["/sdk/bin/gcloud", "app", "versions", "stop", "--service", "--verbosity", "--format"],
    none, o.overlay "linux"⟩, ?_, rfl, ?_, rfl, ?_⟩
  · decide
  · decide
  · decide

end AppVersions
