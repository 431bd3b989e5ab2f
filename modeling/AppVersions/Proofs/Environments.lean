-- The laws of environments: of the entries for a name the first one counts, a process starts with
-- each variable once, and gcloud inherits all but the variables that its options set.
import AppVersions.Machine.Launch
import AppVersions.Proofs.Requests
import AppVersions.Proofs.Utf8
import Mathlib.Data.List.Nodup

namespace AppVersions

/-! ## Layers -/

namespace Environment

/-- A variable of the upper environment hides the one below, and is all that it hides. -/
theorem get?_atop (overlay env : Environment) (name : String) :
    (overlay.atop env).get? name = (overlay.get? name).or (env.get? name) :=
  List.lookup_append

/-- The entries that count, each the first one for its name. -/
def firsts (env : Environment) : List (String × String) :=
  env.foldr (fun (name, value) vs => (name, value) :: vs.filter (·.1 != name)) []

theorem firsts_cons (name value : String) (env : Environment) :
    firsts ((name, value) :: env) = (name, value) :: (firsts env).filter (·.1 != name) := rfl

theorem mem_firsts {env : Environment} {name value : String} :
    (name, value) ∈ env.firsts ↔ env.get? name = some value := by
  induction env with
  | nil => simp [firsts, get?]
  | cons entry env ih =>
    obtain ⟨n, v⟩ := entry
    rw [firsts_cons, List.mem_cons, List.mem_filter, ih]
    by_cases h : name = n
    · subst h
      simp [get?, eq_comm]
    · have hb : (name == n) = false := by simpa using h
      simp [get?, List.lookup_cons, hb, h]

theorem nodup_firsts (env : Environment) : (env.firsts.map Prod.fst).Nodup := by
  induction env with
  | nil => exact List.nodup_nil
  | cons entry env ih =>
    obtain ⟨name, value⟩ := entry
    rw [firsts_cons, List.map_cons, List.nodup_cons]
    refine ⟨fun h => ?_, ih.sublist (List.filter_sublist.map _)⟩
    obtain ⟨later, hm, he⟩ := List.mem_map.mp h
    simp [he] at hm

end Environment

/-! ## Variables of processes -/

namespace Machine

theorem Bytes.toBytes_ofBytes (bs : List UInt8) : Bytes.toBytes (.ofBytes bs) = bs := by
  have hbyte (b : UInt8) : UInt8.ofNat (Char.ofNat b.toNat).toNat = b := by
    have hb : b.toNat.isValidChar := .inl (Nat.lt_trans b.toNat_lt (by decide))
    have hc : (Char.ofNat b.toNat).toNat = b.toNat := by
      rw [Char.ofNat, dif_pos hb]
      rfl
    rw [hc, UInt8.ofNat_toNat]
  rw [toBytes, ofBytes, List.map_map]
  exact List.map_id'' hbyte bs

/-- Different texts are different bytes. -/
theorem Bytes.ofText_inj {s t : String} : Bytes.ofText s = Bytes.ofText t ↔ s = t := by
  refine ⟨fun h => ?_, congrArg _⟩
  have hb := congrArg Bytes.toBytes h
  simp only [ofText, toBytes_ofBytes] at hb
  have ht := congrArg Text.Utf8.text? hb
  simpa only [Text.Utf8.text?_bytes, Option.some.injEq] using ht

/-- The process has the variables of an environment as bytes, each once, and no others. -/
structure Process.Holds (p : Process) (env : Environment) : Prop where
  names_nodup : (p.environment.map Prod.fst).Nodup
  mem_iff (n v : Bytes) : (n, v) ∈ p.environment ↔
    ∃ name value, env.get? name = some value ∧ n = .ofText name ∧ v = .ofText value

/-- Sorting by name loses no variable, and no two names become one. -/
theorem holds_sceneOf (m : Machine) (here : Place) (env : Environment) :
    (m.sceneOf here env).process.Holds env := by
  have hperm : (m.sceneOf here env).process.environment.Perm
      (env.firsts.map fun (name, value) => (Bytes.ofText name, Bytes.ofText value)) :=
    List.mergeSort_perm _ _
  constructor
  case names_nodup =>
    -- The names stay apart as bytes because different texts are different bytes.
    have hnames : ((env.firsts.map Prod.fst).map Bytes.ofText).Nodup :=
      env.nodup_firsts.map fun _ _ => Bytes.ofText_inj.mp
    rw [List.map_map] at hnames
    rw [(hperm.map Prod.fst).nodup_iff, List.map_map]
    exact hnames
  case mem_iff =>
    intro n v
    rw [hperm.mem_iff, List.mem_map]
    constructor
    · rintro ⟨⟨name, value⟩, hm, he⟩
      cases he
      exact ⟨name, value, Environment.mem_firsts.mp hm, rfl, rfl⟩
    · rintro ⟨name, value, hg, rfl, rfl⟩
      exact ⟨(name, value), Environment.mem_firsts.mpr hg, rfl⟩

/-! ## Starting and running -/

/-- The scene that a request starts its process in, unless no process is started. -/
def starting (m : Machine) (q : SpawnRequest) : Except IoError Scene :=
  if q.command = [] then .error (.custom .invalidInput (some "empty command"))
  else if hasNul q then .error (.custom .invalidInput (some "nul byte found in provided data"))
  else (m.sceneOf · (q.overlay.atop m.environment)) <$> m.startPlace q.directory

/-- What becomes of the process of a request from the scene on that it starts in. -/
def carryOut (m : Machine) (q : SpawnRequest) (scene : Scene) : Except IoError (Child × Machine) :=
  do
  let command := q.command.map Bytes.ofText
  let name := command.headD []
  let (outcome, scene) := (if name.contains '/' then executor name command
    else executeByName executor command) scene
  let status ← match outcome with
    | .ok outcome => outcome
    | .error status => .ok status
  return (childOf scene.system.written status, { m with tree := scene.system.tree })

theorem run_eq (m : Machine) (q : SpawnRequest) : m.run q = m.starting q >>= m.carryOut q := by
  unfold run starting
  by_cases hc : q.command = []
  · rw [if_pos hc, if_pos hc]
    rfl
  rw [if_neg hc, if_neg hc]
  by_cases hn : hasNul q
  · rw [if_pos hn, if_pos hn]
    rfl
  rw [if_neg hn, if_neg hn]
  rcases m.startPlace q.directory with e | here
  · rfl
  · rfl

theorem starting_eq_ok_iff {m : Machine} {q : SpawnRequest} {scene : Scene} :
    m.starting q = .ok scene ↔ q.command ≠ [] ∧ hasNul q = false ∧
      ∃ here, m.startPlace q.directory = .ok here ∧
        scene = m.sceneOf here (q.overlay.atop m.environment) := by
  unfold starting
  by_cases hc : q.command = []
  · simp [hc]
  rw [if_neg hc]
  rcases hn : hasNul q with _ | _
  · rcases hs : m.startPlace q.directory with e | here
    · simp
    · simp [hc, eq_comm]
  · simp

end Machine

/-! ## The environment of gcloud -/

namespace GcloudOptions

/-- The variables that some options may set. -/
def ownVariables : List String :=
  ["CLOUDSDK_APP_USE_GSUTIL", "CLOUDSDK_METRICS_ENVIRONMENT",
    "CLOUDSDK_METRICS_ENVIRONMENT_VERSION", "CLOUDSDK_CORE_SHOW_STRUCTURED_LOGS",
    "CLOUDSDK_APP_NUM_FILE_UPLOAD_PROCESSES", "CLOUDSDK_CORE_DISABLE_PROMPTS"]

/-- What the variables of gcloud are to be, by what it inherits: the options say nothing about any
other variable, and what is unset is inherited. -/
structure Governs (o : GcloudOptions) (os : String) (inherited child : String → Option String) :
    Prop where
  others : ∀ name ∉ ownVariables, child name = inherited name
  prompts : child "CLOUDSDK_CORE_DISABLE_PROMPTS" = some "1"
  gsutil : child "CLOUDSDK_APP_USE_GSUTIL" =
    if o.credentialFile.isSome then some "0" else inherited "CLOUDSDK_APP_USE_GSUTIL"
  metrics : child "CLOUDSDK_METRICS_ENVIRONMENT" =
    o.metricsEnvironment.or (inherited "CLOUDSDK_METRICS_ENVIRONMENT")
  metricsVersion : child "CLOUDSDK_METRICS_ENVIRONMENT_VERSION" =
    o.metricsEnvironmentVersion.or (inherited "CLOUDSDK_METRICS_ENVIRONMENT_VERSION")
  structuredLogs : child "CLOUDSDK_CORE_SHOW_STRUCTURED_LOGS" =
    o.showStructuredLogs.or (inherited "CLOUDSDK_CORE_SHOW_STRUCTURED_LOGS")
  uploads : child "CLOUDSDK_APP_NUM_FILE_UPLOAD_PROCESSES" =
    if os = "windows" then some "1" else inherited "CLOUDSDK_APP_NUM_FILE_UPLOAD_PROCESSES"

theorem map_fst_settings (o : GcloudOptions) (os : String) :
    (o.settings os).map Prod.fst = ownVariables := rfl

/-- A variable of the options is what they set it to, or what it is below. -/
theorem get?_overlay_atop {o : GcloudOptions} {os name : String} {value : Option String}
    (h : (name, value) ∈ o.settings os) (inherited : Environment) :
    ((o.overlay os).atop inherited).get? name = value.or (inherited.get? name) := by
  rw [Environment.get?_atop, get?_overlay h]

theorem governs (o : GcloudOptions) (os : String) (inherited : Environment) :
    o.Governs os inherited.get? ((o.overlay os).atop inherited).get? where
  others name h := by
    have hnone : (o.overlay os).get? name = none := by
      rw [overlay_eq]
      exact get?_settings_of_not_mem (o.map_fst_settings os ▸ h)
    rw [Environment.get?_atop, hnone, Option.none_or]
  prompts := get?_overlay_atop (List.mem_of_getElem? (i := 5) rfl) inherited
  gsutil := by
    rw [get?_overlay_atop (List.mem_of_getElem? (i := 0) rfl) inherited]
    cases o.credentialFile with
    | none => rfl
    | some p => rfl
  metrics := get?_overlay_atop (List.mem_of_getElem? (i := 1) rfl) inherited
  metricsVersion := get?_overlay_atop (List.mem_of_getElem? (i := 2) rfl) inherited
  structuredLogs := get?_overlay_atop (List.mem_of_getElem? (i := 3) rfl) inherited
  uploads := by
    rw [get?_overlay_atop (List.mem_of_getElem? (i := 4) rfl) inherited]
    split
    · rfl
    · rfl

/-- Of the credential file only its presence counts. -/
theorem overlay_congr {o₁ o₂ : GcloudOptions}
    (hm : o₁.metricsEnvironment = o₂.metricsEnvironment)
    (hv : o₁.metricsEnvironmentVersion = o₂.metricsEnvironmentVersion)
    (hl : o₁.showStructuredLogs = o₂.showStructuredLogs)
    (hc : o₁.credentialFile.isSome = o₂.credentialFile.isSome) (os : String) :
    o₁.overlay os = o₂.overlay os := by
  have hcred : (o₁.credentialFile.map fun _ => "0") = o₂.credentialFile.map fun _ => "0" := by
    rcases h₁ : o₁.credentialFile with _ | p <;> rcases h₂ : o₂.credentialFile with _ | q
    · rfl
    · simp [h₁, h₂] at hc
    · simp [h₁, h₂] at hc
    · rfl
  rw [overlay, overlay, hm, hv, hl, hcred]

end GcloudOptions

namespace Runner

variable {P : Type}

/-- The environment of the gcloud that a runner launches, by what it inherits. -/
def environment (r : Runner P) (inherited : Environment) : Environment :=
  (r.options.overlay r.os).atop inherited

/-- Whatever a machine is asked to launch by a runner, the process has that environment. -/
theorem holds_environment {r : Runner P} {m : Machine} {gcloud : Path} {arguments : List String}
    {directory : Option Path} {scene : Machine.Scene}
    (h : m.starting (r.request gcloud arguments directory) = .ok scene) :
    scene.process.Holds (r.environment m.environment) := by
  obtain ⟨-, -, here, -, rfl⟩ := Machine.starting_eq_ok_iff.mp h
  exact Machine.holds_sceneOf m here _

/-- The environment of gcloud is the inherited one but for six variables. These are what the
options and the operating system say, or inherited where they say nothing, whatever was inherited
under their names. The environment depends on nothing else, and a process that a machine starts
with it as the inherited one runs with exactly these variables. -/
theorem gcloud_inherits_all_but_its_own_variables (r : Runner P) (inherited : Environment) :
    r.options.Governs r.os inherited.get? (r.environment inherited).get? ∧
      (∀ other : Runner P, other.os = r.os →
        other.options.metricsEnvironment = r.options.metricsEnvironment →
        other.options.metricsEnvironmentVersion = r.options.metricsEnvironmentVersion →
        other.options.showStructuredLogs = r.options.showStructuredLogs →
        other.options.credentialFile.isSome = r.options.credentialFile.isSome →
        other.environment inherited = r.environment inherited) ∧
      ∀ (m : Machine) (gcloud : Path) (arguments : List String) (directory : Option Path)
        (scene : Machine.Scene), m.environment = inherited →
        m.starting (r.request gcloud arguments directory) = .ok scene →
        m.run (r.request gcloud arguments directory) =
            m.carryOut (r.request gcloud arguments directory) scene ∧
          scene.process.Holds (r.environment inherited) := by
  refine ⟨r.options.governs r.os inherited, ?_, ?_⟩
  · intro other hos hm hv hl hc
    rw [environment, environment, hos, GcloudOptions.overlay_congr hm hv hl hc]
  · rintro m gcloud arguments directory scene rfl hs
    refine ⟨?_, holds_environment hs⟩
    rw [Machine.run_eq, hs]
    rfl

/-- On Windows, with another answer to prompts and another upload limit inherited, and with a
structured-logs variable that is set to nothing. -/
theorem gcloud_on_windows_inherits_its_path :
    let inherited : Environment := [("CLOUDSDK_CORE_DISABLE_PROMPTS", "0"), ("PATH", "/bin"),
      ("CLOUDSDK_METRICS_ENVIRONMENT", "shell"), ("CLOUDSDK_CORE_SHOW_STRUCTURED_LOGS", "log"),
      ("CLOUDSDK_APP_NUM_FILE_UPLOAD_PROCESSES", "8")]
    let m : Machine := ⟨⟨[]⟩, [], inherited, "windows", ⟨.epoch, .epoch, 0⟩, ""⟩
    let s : Session := ⟨{ credentialFile := some ⟨"/a.json"⟩, showStructuredLogs := some "" },
      "windows", none, ""⟩
    let c : Script := ⟨.ok (), ⟨"/bin/gcloud"⟩, .ok (), .ok ()⟩
    let r := s.runner c
    let other := Session.runner { s with
      options := { credentialFile := some ⟨"/b.json"⟩, showStructuredLogs := some "",
                   verbosity := some "debug" } } c
    let child := (r.environment inherited).get?
    child "CLOUDSDK_CORE_DISABLE_PROMPTS" = some "1" ∧
      child "CLOUDSDK_APP_USE_GSUTIL" = some "0" ∧
      child "CLOUDSDK_METRICS_ENVIRONMENT" = some "shell" ∧
      child "CLOUDSDK_CORE_SHOW_STRUCTURED_LOGS" = some "" ∧
      child "CLOUDSDK_APP_NUM_FILE_UPLOAD_PROCESSES" = some "1" ∧ child "PATH" = some "/bin" ∧
      other.environment inherited = r.environment inherited ∧
      ∃ scene, m.starting (r.request ⟨"/bin/gcloud"⟩ ["info"] none) = .ok scene ∧
        scene.process.Holds (r.environment inherited) := by
  intro inherited m s c r other child
  obtain ⟨hg, hother, hchild⟩ := gcloud_inherits_all_but_its_own_variables r inherited
  have hs : m.starting (r.request ⟨"/bin/gcloud"⟩ ["info"] none) =
      .ok (m.sceneOf m.here (r.environment inherited)) :=
    Machine.starting_eq_ok_iff.mpr ⟨nofun, by decide, _, rfl, rfl⟩
  exact ⟨hg.prompts, hg.gsutil, hg.metrics, hg.structuredLogs, hg.uploads,
    hg.others "PATH" (by decide), hother other rfl rfl rfl rfl rfl, _, hs,
    (hchild m _ _ _ _ rfl hs).2⟩

end Runner

end AppVersions
