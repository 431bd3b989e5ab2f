-- The laws of sessions: which collaborators a step asks and in what order, what it answers when one
-- of them fails, and that no step depends on the operations before it.
import AppVersions.Proofs.Runs
import AppVersions.Session

namespace AppVersions

/-! ## Operations without versions -/

/-- Only a listing goes without versions; for all else the reason says what is missing. -/
theorem arguments_of_no_versions {op : Operation} (hv : op.versions = [])
    (hl : op.isListing = false) :
    op.arguments = .error (.invalidConfiguration
      ("at least one version is required for 'app versions " ++ op.name ++ "'")) := by
  unfold Operation.arguments
  rw [if_pos (by simp [hv, hl])]

theorem arguments_of_versions {op : Operation} (h : op.versions ≠ [] ∨ op.isListing = true) :
    op.arguments = .ok (["app", "versions", op.name] ++ op.versions ++ op.flags) := by
  unfold Operation.arguments
  rw [if_neg]
  rintro ⟨hv, hl⟩
  rcases h with h | h
  · exact h hv
  · exact hl h

theorem versions_of_arguments {op : Operation} {arguments : List String}
    (h : op.arguments = .ok arguments) : op.versions ≠ [] ∨ op.isListing = true := by
  apply Decidable.byContradiction
  intro hn
  simp only [not_or, Decidable.not_not, Bool.not_eq_true] at hn
  rw [arguments_of_no_versions hn.1 hn.2] at h
  cases h

namespace Session

/-! ## What a step may do -/

/-- A step submits these arguments, to run in this directory. -/
inductive Submits : Step → List String → Option Path → Prop
  | operation {op : Operation} {arguments : List String} (h : op.arguments = .ok arguments) :
      Submits (.operate op) arguments none
  | run (arguments : List String) (directory : Option Path) :
      Submits (.run arguments directory) arguments directory

/-- A step that only replaces collaborators. -/
def isReplacement : Step → Bool
  | .operate _ | .run _ _ => false
  | .setSdk _ _ | .setSpawner _ | .setHandler _ => true

/-- The request for some arguments, with the collaborators `c`. -/
def request (s : Session) (c : Script) (arguments : List String) (directory : Option Path) :
    SpawnRequest where
  command := commandLine (absolute s.currentDirectory c.gcloud) arguments s.options
  directory := directory
  overlay := s.options.overlay s.os

/-- The calls and the result of a step with the collaborators `c`, by the first stage that fails. -/
inductive Conducted (s : Session) (c : Script) : Step → List Call → Except AppError Unit → Prop
  | replacing {st : Step} (h : isReplacement st = true) : Conducted s c st [] (.ok ())
  | noVersions {op : Operation} (hv : op.versions = []) (hl : op.isListing = false) :
      Conducted s c (.operate op) [] (.error (.invalidConfiguration
        ("at least one version is required for 'app versions " ++ op.name ++ "'")))
  | invalidSdk {st : Step} {arguments : List String} {directory : Option Path} {e : SdkError}
      (hs : Submits st arguments directory) (hv : c.sdk = .error e) :
      Conducted s c st [.validate] (.error (.sdk e))
  | notSpawned {st : Step} {arguments : List String} {directory : Option Path} {e : IoError}
      (hs : Submits st arguments directory) (hv : c.sdk = .ok ()) (hp : c.spawner = .error e) :
      Conducted s c st [.validate, .gcloudPath, .spawn (s.request c arguments directory)]
        (.error (.io e))
  | handled {st : Step} {arguments : List String} {directory : Option Path}
      (hs : Submits st arguments directory) (hv : c.sdk = .ok ()) (hp : c.spawner = .ok ()) :
      Conducted s c st [.validate, .gcloudPath, .spawn (s.request c arguments directory),
        .handle (s.request c arguments directory).command.length] (c.handler.mapError .handler)

/-! ## One step -/

theorem validate_value (s : Session) (c : Script) :
    (s.runner c).backend.validate.run.value = c.sdk := rfl

theorem spawn_value (s : Session) (c : Script) (q : SpawnRequest) :
    ((s.runner c).backend.spawn q).run.value = c.spawner.map fun _ => q := rfl

theorem handle_value (s : Session) (c : Script) (q : SpawnRequest) :
    ((s.runner c).backend.handle q).run.value = c.handler := rfl

/-- Whatever step submits the arguments: its calls and its result are those of the run. -/
theorem run_conducted (s : Session) (c : Script) {st : Step} {arguments : List String}
    {directory : Option Path} (hs : Submits st arguments directory) :
    Conducted s c st ((s.runner c).run arguments directory).run.calls
      ((s.runner c).run arguments directory).run.value := by
  rcases hv : c.sdk with e | _
  · rw [Runner.run_of_invalid_sdk ((validate_value s c).trans hv)]
    exact .invalidSdk hs hv
  · have hv' : (s.runner c).backend.validate.run.value = .ok () := (validate_value s c).trans hv
    have hp' := spawn_value s c (s.request c arguments directory)
    rcases hp : c.spawner with e | _
    · rw [hp] at hp'
      rw [Runner.run_of_failed_spawn rfl hv' hp']
      exact .notSpawned hs hv hp
    · rw [hp] at hp'
      have hc : Conducted s c st _ _ := .handled hs hv hp
      rw [Runner.run_of_spawned rfl hv' hp', handle_value]
      -- only what the last stage logs depends on how it ends
      rcases hh : c.handler with e | _
      · rw [hh] at hc
        exact hc
      · rw [hh] at hc
        exact hc

theorem step_conducted (s : Session) (c : Script) (st : Step) :
    Conducted s c st (s.step c st).run.calls (s.step c st).run.value := by
  cases st with
  | operate op =>
    by_cases h : op.versions ≠ [] ∨ op.isListing = true
    · have ha := arguments_of_versions h
      have hc := run_conducted s c (.operation ha)
      show Conducted s c _ ((s.runner c).operate op).run.calls ((s.runner c).operate op).run.value
      rw [Runner.operate_of_arguments ha]
      exact hc
    · simp only [not_or, Decidable.not_not, Bool.not_eq_true] at h
      show Conducted s c _ ((s.runner c).operate op).run.calls ((s.runner c).operate op).run.value
      rw [Runner.operate_of_no_arguments (arguments_of_no_versions h.1 h.2)]
      exact .noVersions h.1 h.2
  | run arguments directory => exact run_conducted s c (.run arguments directory)
  | setSdk sdk gcloud => exact .replacing rfl
  | setSpawner spawner => exact .replacing rfl
  | setHandler handler => exact .replacing rfl

/-- What holds of the trace `t` of the step `st` with the collaborators `c`. -/
structure Disciplined (s : Session) (c : Script) (st : Step) (t : Traced (Except AppError Unit)) :
    Prop where
  conducted : Conducted s c st t.calls t.value
  spawn_only_valid : ∀ q, .spawn q ∈ t.calls → c.sdk = .ok () ∧
    (∀ op, st = .operate op → op.versions ≠ [] ∨ op.isListing = true) ∧
    ∃ arguments directory, Submits st arguments directory ∧ q = s.request c arguments directory
  spawn_at_most_once : (t.calls.filter fun call => call matches .spawn _).length ≤ 1
  handle_only_spawned : ∀ n, .handle n ∈ t.calls → c.spawner = .ok () ∧
    ∃ q, .spawn q ∈ t.calls ∧ n = q.command.length

theorem spawn_of_conducted {s : Session} {c : Script} {st : Step} {calls : List Call}
    {result : Except AppError Unit} {q : SpawnRequest} (h : Conducted s c st calls result)
    (hq : .spawn q ∈ calls) :
    c.sdk = .ok () ∧ ∃ arguments directory, Submits st arguments directory ∧
      q = s.request c arguments directory := by
  cases h with
  | replacing _ => simp at hq
  | noVersions _ _ => simp at hq
  | invalidSdk _ _ => simp at hq
  | notSpawned hs hv _ =>
    simp only [List.mem_cons, reduceCtorEq, Call.spawn.injEq, List.not_mem_nil, or_false,
      false_or] at hq
    exact ⟨hv, _, _, hs, hq⟩
  | handled hs hv _ =>
    simp only [List.mem_cons, reduceCtorEq, Call.spawn.injEq, List.not_mem_nil, or_false,
      false_or] at hq
    exact ⟨hv, _, _, hs, hq⟩

theorem disciplined_of_conducted {s : Session} {c : Script} {st : Step}
    {t : Traced (Except AppError Unit)} (h : Conducted s c st t.calls t.value) :
    Disciplined s c st t := by
  refine ⟨h, ?_, ?_, ?_⟩
  · intro q hq
    obtain ⟨hv, arguments, directory, hs, rfl⟩ := spawn_of_conducted h hq
    refine ⟨hv, ?_, arguments, directory, hs, rfl⟩
    rintro op rfl
    cases hs with
    | operation ha => exact versions_of_arguments ha
  · generalize t.calls = calls at h
    generalize t.value = result at h
    cases h <;> simp
  · intro n hn
    generalize t.calls = calls at h hn
    generalize t.value = result at h
    cases h with
    | replacing _ => simp at hn
    | noVersions _ _ => simp at hn
    | invalidSdk _ _ => simp at hn
    | notSpawned _ _ _ => simp at hn
    | handled _ _ hp =>
      simp only [List.mem_cons, reduceCtorEq, Call.handle.injEq, List.not_mem_nil, or_false,
        false_or] at hn
      exact ⟨hp, _, by simp, hn⟩

/-! ## Whole sessions -/

/-- The script after some steps: their replacements alone decide it. -/
def scriptAfter (script : Script) (before : List Step) : Script :=
  (before.filter isReplacement).foldl next script

theorem scriptAfter_cons (script : Script) (st : Step) (before : List Step) :
    scriptAfter script (st :: before) = scriptAfter (next script st) before := by
  unfold scriptAfter
  cases st <;> rfl

theorem length_play (s : Session) (script : Script) (steps : List Step) :
    (s.play script steps).length = steps.length := by
  induction steps generalizing script with
  | nil => rfl
  | cons st rest ih => simp [play, ih]

/-- The trace of each step is that of the step alone, with the collaborators of its time. -/
theorem getElem?_play (s : Session) {script : Script} {steps : List Step} {i : Nat} {st : Step}
    (h : steps[i]? = some st) :
    (s.play script steps)[i]? = some (s.step (scriptAfter script (steps.take i)) st).run := by
  induction steps generalizing script i with
  | nil => simp at h
  | cons first rest ih =>
    cases i with
    | zero =>
      simp only [List.getElem?_cons_zero, Option.some.injEq] at h
      subst h
      rfl
    | succ i =>
      simp only [List.getElem?_cons_succ] at h
      rw [List.take_succ_cons, scriptAfter_cons]
      simpa [play] using ih h

/-! ## The laws -/

/-- Every step of every session asks its collaborators in one order and stops at the first that
fails. Its trace is that of the step alone with the collaborators of its time, and these are what
the replacements before it left. -/
theorem every_step_asks_in_order_and_stops_at_the_first_failure (s : Session) (script : Script)
    (steps : List Step) :
    (s.play script steps).length = steps.length ∧
      ∀ i st, steps[i]? = some st → ∃ t, (s.play script steps)[i]? = some t ∧
        t = (s.step (scriptAfter script (steps.take i)) st).run ∧
        Disciplined s (scriptAfter script (steps.take i)) st t := by
  refine ⟨length_play s script steps, ?_⟩
  intro i st h
  refine ⟨_, getElem?_play s h, rfl, ?_⟩
  exact disciplined_of_conducted (step_conducted s _ st)

/-- An SDK that was missing is there after its replacement; the spawner that was replaced before it
fails now. -/
theorem a_step_asks_the_collaborators_of_its_time :
    let s : Session := ⟨{}, "linux", none, "a"⟩
    let script : Script := ⟨.error (.notFound "gone"), ⟨"/old"⟩, .ok (), .ok ()⟩
    let op : Operation := .stop { versions := ["v1"] }
    let steps : List Step :=
      [.setSpawner (.error (.os 2)), .operate op, .setSdk (.ok ()) ⟨"/new"⟩, .operate op]
    steps[3]? = some (.operate op) ∧ ∃ t, (s.play script steps)[3]? = some t ∧
      t.value = .error (.io (.os 2)) ∧
      Disciplined s ⟨.ok (), ⟨"/new"⟩, .error (.os 2), .ok ()⟩ (.operate op) t := by
  intro s script op steps
  have hst : steps[3]? = some (.operate op) := rfl
  obtain ⟨t, ht, he, hd⟩ :=
    (every_step_asks_in_order_and_stops_at_the_first_failure s script steps).2 3 _ hst
  refine ⟨hst, t, ht, ?_, hd⟩
  rw [he]
  rfl

end Session

end AppVersions
