-- The laws of requests: flags stand in a fixed order, the variables are laid over by name, and a
-- request tells the operation and the options that it was built from.
import AppVersions.Proofs.Sessions
import AppVersions.Request

namespace AppVersions

/-! ## Flags in a fixed order -/

/-- The tokens of named values that may be unset, in their order. -/
def flagTokens (fields : List (String × Option String)) : List String :=
  fields.flatMap fun (name, value) => flag name value

theorem flagTokens_cons_none (name : String) (fields : List (String × Option String)) :
    flagTokens ((name, none) :: fields) = flagTokens fields := rfl

theorem flagTokens_cons_some (name v : String) (fields : List (String × Option String)) :
    flagTokens ((name, some v) :: fields) = ("--" ++ name) :: v :: flagTokens fields := rfl

theorem flagTokens_append (fields more : List (String × Option String)) :
    flagTokens (fields ++ more) = flagTokens fields ++ flagTokens more := List.flatMap_append

theorem dashed_inj {a b : String} (h : "--" ++ a = "--" ++ b) : a = b := by
  have := congrArg String.toList h
  simpa [String.toList_append, String.ext_iff] using this

/-- What stands first after some flags: one of their names, or what follows them all. -/
theorem head?_flagTokens_append {fields : List (String × Option String)} {rest : List String}
    {t : String} (h : (flagTokens fields ++ rest).head? = some t) :
    (∃ name ∈ fields.map Prod.fst, t = "--" ++ name) ∨ rest.head? = some t := by
  induction fields with
  | nil => exact .inr h
  | cons field fields ih =>
    obtain ⟨name, _ | v⟩ := field
    · rw [flagTokens_cons_none] at h
      rcases ih h with ⟨n, hn, ht⟩ | hr
      · exact .inl ⟨n, List.mem_cons_of_mem _ hn, ht⟩
      · exact .inr hr
    · rw [flagTokens_cons_some] at h
      simp only [List.cons_append, List.head?_cons, Option.some.injEq] at h
      exact .inl ⟨name, by simp, h.symm⟩

/-- Flags of different names in a fixed order tell which are set and to what, and where the rest
begins, if the rest does not begin like one of them. The values may be any text. -/
theorem flagTokens_append_inj {fields others : List (String × Option String)}
    {xs ys : List String} (hn : fields.map Prod.fst = others.map Prod.fst)
    (hd : (fields.map Prod.fst).Nodup)
    (hx : ∀ name ∈ fields.map Prod.fst, xs.head? ≠ some ("--" ++ name))
    (hy : ∀ name ∈ fields.map Prod.fst, ys.head? ≠ some ("--" ++ name))
    (h : flagTokens fields ++ xs = flagTokens others ++ ys) : fields = others ∧ xs = ys := by
  induction fields generalizing others with
  | nil =>
    have ho : others = [] := by simpa using hn.symm
    subst ho
    exact ⟨rfl, h⟩
  | cons field fields ih =>
    obtain ⟨name, v⟩ := field
    obtain _ | ⟨⟨_, w⟩, others⟩ := others
    · simp at hn
    simp only [List.map_cons, List.cons.injEq] at hn
    obtain ⟨rfl, hn⟩ := hn
    simp only [List.map_cons, List.nodup_cons] at hd
    -- A flag that is set here is no later flag of the other side, nor what follows its flags.
    have hlater : ∀ (later : List (String × Option String)) (zs : List String),
        later.map Prod.fst = fields.map Prod.fst → zs.head? ≠ some ("--" ++ name) →
        (flagTokens later ++ zs).head? ≠ some ("--" ++ name) := by
      intro later zs hl hz hh
      rcases head?_flagTokens_append hh with ⟨n, hmem, he⟩ | hr
      · have hne := dashed_inj he
        subst hne
        rw [hl] at hmem
        exact hd.1 hmem
      · exact hz hr
    have ih := @ih others hn hd.2 (fun n hm => hx n (List.mem_cons_of_mem _ hm))
      (fun n hm => hy n (List.mem_cons_of_mem _ hm))
    rcases v with _ | v
    · rcases w with _ | w
      · obtain ⟨rfl, rfl⟩ := ih h
        exact ⟨rfl, rfl⟩
      · exfalso
        rw [flagTokens_cons_none, flagTokens_cons_some] at h
        exact hlater fields xs rfl (hx name (by simp)) (by rw [h]; rfl)
    · rcases w with _ | w
      · exfalso
        rw [flagTokens_cons_none, flagTokens_cons_some] at h
        exact hlater others ys hn.symm (hy name (by simp)) (by rw [← h]; rfl)
      · rw [flagTokens_cons_some, flagTokens_cons_some] at h
        simp only [List.cons_append, List.cons.injEq, true_and] at h
        obtain ⟨rfl, rfl⟩ := ih h.2
        exact ⟨by rw [h.1], rfl⟩

/-! ## The flags of a command -/

/-- The named values of an operation, in the order of its flags. -/
def Operation.fields : Operation → List (String × Option String)
  | .start s | .stop s | .delete s => [("service", s.service), ("project", s.project)]
  | .list l =>
    [("service", l.service), ("project", l.project),
      ("hide-no-traffic", l.hideNoTraffic.map fun b => if b then "true" else "false")]

/-- The named values of the options that become flags, in their order. -/
def GcloudOptions.fields (o : GcloudOptions) : List (String × Option String) :=
  [("format", o.outputFormat), ("verbosity", o.verbosity),
    ("credential-file-override", o.credentialFile.map Path.text)]

/-- The flags files, each with its flag. -/
def fileTokens (files : List Path) : List String := files.flatMap fun p => ["--flags-file", p.text]

theorem Operation.flags_eq (op : Operation) : op.flags = flagTokens op.fields := by
  cases op <;> simp [flags, fields, flagTokens, flagBool]

theorem GcloudOptions.flags_eq (o : GcloudOptions) :
    o.flags = flagTokens o.fields ++ fileTokens o.flagsFiles := by
  simp [flags, fields, flagTokens, fileTokens, flagPath, flag]

theorem fileTokens_inj {ps qs : List Path} (h : fileTokens ps = fileTokens qs) : ps = qs := by
  induction ps generalizing qs with
  | nil =>
    cases qs with
    | nil => rfl
    | cons q qs => simp [fileTokens] at h
  | cons p ps ih =>
    cases qs with
    | nil => simp [fileTokens] at h
    | cons q qs =>
      obtain ⟨p⟩ := p
      obtain ⟨q⟩ := q
      simp only [fileTokens, List.flatMap_cons, List.cons_append, List.nil_append,
        List.cons.injEq, true_and] at h
      obtain ⟨rfl, h⟩ := h
      rw [ih h]

theorem head?_fileTokens {files : List Path} {t : String}
    (h : (fileTokens files).head? = some t) : t = "--flags-file" := by
  cases files with
  | nil => simp [fileTokens] at h
  | cons p ps => simpa [fileTokens] using h.symm

/-! ## Where the versions end -/

/-- The flags that may stand right after the versions. -/
def versionEnds : List String :=
  ["--service", "--project", "--format", "--verbosity", "--credential-file-override",
    "--flags-file"]

/-- A list that holds none of some tokens ends where the first of them stands. -/
theorem append_inj_of_ends {ends vs ws xs ys : List String} (hv : ∀ v ∈ vs, v ∉ ends)
    (hw : ∀ w ∈ ws, w ∉ ends) (hx : ∀ t, xs.head? = some t → t ∈ ends)
    (hy : ∀ t, ys.head? = some t → t ∈ ends) (h : vs ++ xs = ws ++ ys) : vs = ws ∧ xs = ys := by
  induction vs generalizing ws with
  | nil =>
    cases ws with
    | nil => exact ⟨rfl, h⟩
    | cons w ws =>
      have : w ∈ ends := hx w (by simp [show xs = w :: ws ++ ys from h])
      exact absurd this (hw w (by simp))
  | cons v vs ih =>
    cases ws with
    | nil =>
      have : v ∈ ends := hy v (by simp [← show v :: vs ++ xs = ys from h])
      exact absurd this (hv v (by simp))
    | cons w ws =>
      simp only [List.cons_append, List.cons.injEq] at h
      obtain ⟨rfl, h⟩ := h
      obtain ⟨rfl, rfl⟩ := ih (fun x hm => hv x (by simp [hm])) (fun x hm => hw x (by simp [hm])) h
      exact ⟨rfl, rfl⟩

/-- All tokens after the versions. -/
def commandTail (op : Operation) (o : GcloudOptions) : List String :=
  flagTokens (op.fields ++ o.fields) ++ fileTokens o.flagsFiles

theorem commandLine_eq (gcloud : Path) {op : Operation} {arguments : List String}
    (o : GcloudOptions) (h : op.arguments = .ok arguments) :
    commandLine gcloud arguments o =
      gcloud.text :: "app" :: "versions" :: op.name :: (op.versions ++ commandTail op o) := by
  rw [arguments_of_versions (versions_of_arguments h)] at h
  cases h
  simp [commandLine, commandTail, Operation.flags_eq, GcloudOptions.flags_eq, flagTokens_append]

theorem head?_commandTail {op : Operation} {o : GcloudOptions} {t : String}
    (hl : op.isListing = false) (h : (commandTail op o).head? = some t) : t ∈ versionEnds := by
  rcases head?_flagTokens_append h with ⟨name, hn, rfl⟩ | hf
  · cases op with
    | list l => cases hl
    | start s | stop s | delete s =>
      simp only [Operation.fields, GcloudOptions.fields, List.map_cons, List.map_nil,
        List.cons_append, List.nil_append, List.mem_cons, List.not_mem_nil, or_false] at hn
      rcases hn with rfl | rfl | rfl | rfl | rfl <;> decide
  · rw [head?_fileTokens hf]
    decide

/-- No two flags of a command share a name, and none has that of the flags files. -/
theorem names_nodup (op : Operation) (o : GcloudOptions) :
    ("flags-file" :: (op.fields ++ o.fields).map Prod.fst).Nodup := by
  cases op <;> simp [Operation.fields, GcloudOptions.fields]

theorem map_fst_fields {op₁ op₂ : Operation} (hn : op₁.name = op₂.name) :
    op₁.fields.map Prod.fst = op₂.fields.map Prod.fst := by
  cases op₁ <;> cases op₂ <;> simp_all [Operation.name, Operation.fields]

theorem commandTail_inj {op₁ op₂ : Operation} {o₁ o₂ : GcloudOptions} (hn : op₁.name = op₂.name)
    (h : commandTail op₁ o₁ = commandTail op₂ o₂) :
    op₁.fields = op₂.fields ∧ o₁.fields = o₂.fields ∧ o₁.flagsFiles = o₂.flagsFiles := by
  obtain ⟨hf, hd⟩ := List.nodup_cons.mp (names_nodup op₁ o₁)
  have hmap := map_fst_fields hn
  have hfiles : ∀ (files : List Path), ∀ name ∈ (op₁.fields ++ o₁.fields).map Prod.fst,
      (fileTokens files).head? ≠ some ("--" ++ name) := by
    intro files name hm hh
    have he : name = "flags-file" := dashed_inj (head?_fileTokens hh)
    rw [he] at hm
    exact hf hm
  have hnames : (op₁.fields ++ o₁.fields).map Prod.fst =
      (op₂.fields ++ o₂.fields).map Prod.fst := by
    rw [List.map_append, List.map_append, hmap]
    rfl
  obtain ⟨hfields, htail⟩ := flagTokens_append_inj hnames hd (hfiles _) (hfiles _) h
  have hlen : op₁.fields.length = op₂.fields.length := by
    simpa using congrArg List.length hmap
  obtain ⟨ho, hg⟩ := List.append_inj hfields hlen
  exact ⟨ho, hg, fileTokens_inj htail⟩

theorem isListing_eq {op₁ op₂ : Operation} (hn : op₁.name = op₂.name) :
    op₁.isListing = op₂.isListing := by
  cases op₁ <;> cases op₂ <;> simp_all [Operation.name, Operation.isListing]

theorem versions_of_isListing {op : Operation} (h : op.isListing = true) : op.versions = [] := by
  cases op with
  | start s | stop s | delete s => cases h
  | list l => rfl

/-- The name, the versions and the named values are all there is to an operation. -/
theorem eq_of_fields {op₁ op₂ : Operation} (hn : op₁.name = op₂.name)
    (hv : op₁.versions = op₂.versions) (hf : op₁.fields = op₂.fields) : op₁ = op₂ := by
  cases op₁ with
  | start s₁ | stop s₁ | delete s₁ =>
    obtain ⟨vs₁, service₁, project₁⟩ := s₁
    cases op₂ with
    | start s₂ | stop s₂ | delete s₂ | list l₂ =>
      simp_all [Operation.name, Operation.versions, Operation.fields]
  | list l₁ =>
    cases op₂ with
    | start s₂ | stop s₂ | delete s₂ => simp [Operation.name] at hn
    | list l₂ =>
      obtain ⟨service₁, project₁, hide₁⟩ := l₁
      obtain ⟨service₂, project₂, hide₂⟩ := l₂
      simp only [Operation.fields, List.cons.injEq, Prod.mk.injEq, true_and, and_true] at hf
      obtain ⟨rfl, rfl, hide⟩ := hf
      have hb : hide₁ = hide₂ := by
        rcases hide₁ with _ | _ | _ <;> rcases hide₂ with _ | _ | _ <;> simp_all
      rw [hb]

/-! ## The variables -/

/-- The named values of the options that become variables on the operating system `os`. -/
def GcloudOptions.settings (o : GcloudOptions) (os : String) : List (String × Option String) :=
  [("CLOUDSDK_APP_USE_GSUTIL", o.credentialFile.map fun _ => "0"),
    ("CLOUDSDK_METRICS_ENVIRONMENT", o.metricsEnvironment),
    ("CLOUDSDK_METRICS_ENVIRONMENT_VERSION", o.metricsEnvironmentVersion),
    ("CLOUDSDK_CORE_SHOW_STRUCTURED_LOGS", o.showStructuredLogs),
    ("CLOUDSDK_APP_NUM_FILE_UPLOAD_PROCESSES", if os = "windows" then some "1" else none),
    ("CLOUDSDK_CORE_DISABLE_PROMPTS", some "1")]

theorem GcloudOptions.overlay_eq (o : GcloudOptions) (os : String) :
    o.overlay os = (o.settings os).flatMap fun (name, value) => setting name value := by
  simp [overlay, settings]

/-- What is not set by its name is not set at all. -/
theorem get?_settings_of_not_mem {fields : List (String × Option String)} {name : String}
    (h : name ∉ fields.map Prod.fst) :
    Environment.get? (fields.flatMap fun (n, v) => GcloudOptions.setting n v) name = none := by
  induction fields with
  | nil => rfl
  | cons field fields ih =>
    obtain ⟨n, _ | v⟩ := field
    · simp only [List.map_cons, List.mem_cons, not_or] at h
      exact ih h.2
    · simp only [List.map_cons, List.mem_cons, not_or] at h
      have hb : (name == n) = false := by simpa using h.1
      simpa [Environment.get?, GcloudOptions.setting, List.lookup_cons, hb] using ih h.2

theorem get?_settings {fields : List (String × Option String)}
    (hd : (fields.map Prod.fst).Nodup) {name : String} {value : Option String}
    (h : (name, value) ∈ fields) :
    Environment.get? (fields.flatMap fun (n, v) => GcloudOptions.setting n v) name = value := by
  induction fields with
  | nil => cases h
  | cons field fields ih =>
    obtain ⟨n, v⟩ := field
    simp only [List.map_cons, List.nodup_cons] at hd
    rcases List.mem_cons.mp h with he | hm
    · cases he
      cases value with
      | none =>
        have hnot := get?_settings_of_not_mem hd.1
        exact hnot
      | some v => simp [Environment.get?, GcloudOptions.setting]
    · have hne : name ≠ n := by
        rintro rfl
        exact hd.1 (List.mem_map_of_mem hm)
      have hb : (name == n) = false := by simpa using hne
      cases v with
      | none => exact ih hd.2 hm
      | some v =>
        simpa [Environment.get?, GcloudOptions.setting, List.lookup_cons, hb] using ih hd.2 hm

/-- Each variable of the options has its own value, or none when that is unset. -/
theorem get?_overlay {o : GcloudOptions} {os name : String} {value : Option String}
    (h : (name, value) ∈ o.settings os) : (o.overlay os).get? name = value := by
  rw [GcloudOptions.overlay_eq]
  refine get?_settings ?_ h
  simp [GcloudOptions.settings]

/-! ## The laws -/

/-- A command tells its operation and the options that become flags. -/
theorem commandLine_inj {gcloud₁ gcloud₂ : Path} {op₁ op₂ : Operation}
    {arguments₁ arguments₂ : List String} {o₁ o₂ : GcloudOptions}
    (ha₁ : op₁.arguments = .ok arguments₁) (ha₂ : op₂.arguments = .ok arguments₂)
    (hv₁ : ∀ v ∈ op₁.versions, v ∉ versionEnds) (hv₂ : ∀ v ∈ op₂.versions, v ∉ versionEnds)
    (h : commandLine gcloud₁ arguments₁ o₁ = commandLine gcloud₂ arguments₂ o₂) :
    op₁ = op₂ ∧ o₁.fields = o₂.fields ∧ o₁.flagsFiles = o₂.flagsFiles := by
  rw [commandLine_eq _ _ ha₁, commandLine_eq _ _ ha₂] at h
  simp only [List.cons.injEq, true_and] at h
  obtain ⟨-, hn, h⟩ := h
  have hsplit : op₁.versions = op₂.versions ∧ commandTail op₁ o₁ = commandTail op₂ o₂ := by
    by_cases hl : op₁.isListing = true
    · rw [versions_of_isListing hl, versions_of_isListing (isListing_eq hn ▸ hl)] at h
      exact ⟨by rw [versions_of_isListing hl, versions_of_isListing (isListing_eq hn ▸ hl)], h⟩
    · simp only [Bool.not_eq_true] at hl
      exact append_inj_of_ends hv₁ hv₂ (fun t => head?_commandTail hl)
        (fun t => head?_commandTail (isListing_eq hn ▸ hl)) h
  obtain ⟨hf, ho, hfiles⟩ := commandTail_inj hn hsplit.2
  exact ⟨eq_of_fields hn hsplit.1 hf, ho, hfiles⟩

/-- The options that become flags, the flags files and three variables are all of the options. -/
theorem options_eq {o₁ o₂ : GcloudOptions} (hf : o₁.fields = o₂.fields)
    (hfiles : o₁.flagsFiles = o₂.flagsFiles)
    (hm : o₁.metricsEnvironment = o₂.metricsEnvironment)
    (hv : o₁.metricsEnvironmentVersion = o₂.metricsEnvironmentVersion)
    (hs : o₁.showStructuredLogs = o₂.showStructuredLogs) : o₁ = o₂ := by
  obtain ⟨_, _, credential₁, _, _, _, _⟩ := o₁
  obtain ⟨_, _, credential₂, _, _, _, _⟩ := o₂
  simp only [GcloudOptions.fields, List.cons.injEq, Prod.mk.injEq, true_and, and_true] at *
  obtain ⟨rfl, rfl, hc⟩ := hf
  subst hfiles hm hv hs
  have : credential₁ = credential₂ := by
    rcases credential₁ with _ | ⟨⟨_⟩⟩ <;> rcases credential₂ with _ | ⟨⟨_⟩⟩ <;> simp_all
  rw [this]

/-- The request that an operation submits in a session. -/
theorem request_of_spawn {s : Session} {c : Script} {op : Operation} {q : SpawnRequest}
    (h : .spawn q ∈ (s.step c (.operate op)).run.calls) :
    ∃ arguments, op.arguments = .ok arguments ∧ q = s.request c arguments none := by
  obtain ⟨-, arguments, directory, hs, rfl⟩ :=
    Session.spawn_of_conducted (Session.step_conducted s c (.operate op)) h
  cases hs with
  | operation ha => exact ⟨arguments, ha, rfl⟩

/-- A request tells its operation and its options: two operations with any options, whose requests
have the same command and set the same variables, are the same, whatever else they ran with. Only a
version that looks like a flag which may follow the versions is excluded; every other text may look
like anything. -/
theorem a_request_tells_its_operation_and_its_options {s₁ s₂ : Session} {c₁ c₂ : Script}
    {op₁ op₂ : Operation} {q₁ q₂ : SpawnRequest}
    (hq₁ : .spawn q₁ ∈ (s₁.step c₁ (.operate op₁)).run.calls)
    (hq₂ : .spawn q₂ ∈ (s₂.step c₂ (.operate op₂)).run.calls)
    (hv₁ : ∀ v ∈ op₁.versions, v ∉ versionEnds) (hv₂ : ∀ v ∈ op₂.versions, v ∉ versionEnds)
    (hc : q₁.command = q₂.command) (he : ∀ name, q₁.overlay.get? name = q₂.overlay.get? name) :
    op₁ = op₂ ∧ s₁.options = s₂.options := by
  obtain ⟨arguments₁, ha₁, rfl⟩ := request_of_spawn hq₁
  obtain ⟨arguments₂, ha₂, rfl⟩ := request_of_spawn hq₂
  obtain ⟨hop, hfields, hfiles⟩ := commandLine_inj ha₁ ha₂ hv₁ hv₂ hc
  refine ⟨hop, ?_⟩
  have hvar : ∀ (i : Nat) {name : String} {v₁ v₂ : Option String},
      (s₁.options.settings s₁.os)[i]? = some (name, v₁) →
      (s₂.options.settings s₂.os)[i]? = some (name, v₂) → v₁ = v₂ := by
    intro i name v₁ v₂ h₁ h₂
    have hn := he name
    rw [Session.request, Session.request, get?_overlay (List.mem_of_getElem? h₁),
      get?_overlay (List.mem_of_getElem? h₂)] at hn
    exact hn
  exact options_eq hfields hfiles (hvar 1 rfl rfl) (hvar 2 rfl rfl) (hvar 3 rfl rfl)

/-- Values that look like flags do no harm: a service named after a flag, a file named after the
next one, twice, and an empty version. -/
theorem a_request_of_values_like_flags_tells_them_all :
    let o : GcloudOptions :=
      { outputFormat := some "--verbosity", flagsFiles := [⟨"--format"⟩, ⟨"--format"⟩],
        metricsEnvironment := some "" }
    let op : Operation :=
      .stop { versions := ["", "--hide-no-traffic"], service := some "--project" }
    let command := ["/sdk/bin/gcloud", "app", "versions", "stop", "", "--hide-no-traffic",
      "--service", "--project", "--format", "--verbosity", "--flags-file", "--format",
      "--flags-file", "--format"]
    let here : Session := ⟨o, "linux", none, "a"⟩
    let there : Session := ⟨o, "macos", some ⟨"/tmp"⟩, "b"⟩
    let c : Script := ⟨.ok (), ⟨"/sdk/bin/gcloud"⟩, .ok (), .ok ()⟩
    let d : Script := { c with handler := .error (.nonZeroExit none) }
    .spawn ⟨command, none, o.overlay "linux"⟩ ∈ (here.step c (.operate op)).run.calls ∧
      .spawn ⟨command, none, o.overlay "macos"⟩ ∈ (there.step d (.operate op)).run.calls ∧
      (∀ v ∈ op.versions, v ∉ versionEnds) ∧ op = op ∧ here.options = there.options := by
  intro o op command here there c d
  have h : .spawn ⟨command, none, o.overlay "linux"⟩ ∈ (here.step c (.operate op)).run.calls := by
    decide
  have h' : .spawn ⟨command, none, o.overlay "macos"⟩ ∈ (there.step d (.operate op)).run.calls := by
    decide
  have hv : ∀ v ∈ op.versions, v ∉ versionEnds := by decide
  exact ⟨h, h', hv, a_request_tells_its_operation_and_its_options h h' hv hv rfl fun _ => rfl⟩

end AppVersions
