-- The laws of the log of a session: what an entry tells has happened in its step, and whatever of
-- this happens in a step has its entry.
import AppVersions.Proofs.Sessions
import AppVersions.Proofs.Wording

namespace AppVersions

/-! ## What a trace tells -/

/-- The value that an entry gives for a field. -/
def Log.Entry.field? (e : Log.Entry) (name : String) : Option String := e.fields.lookup name

namespace Traced

variable {α : Type}

/-- The entries with this message, in order. -/
def told (message : String) (t : Traced α) : List Log.Entry :=
  t.entries.filter (·.message = message)

/-- The requests that the spawner was asked for, in order. -/
def spawned (t : Traced α) : List SpawnRequest :=
  t.calls.filterMap fun
    | .spawn request => some request
    | _ => none

/-- What was wrong with the SDK, once for each time that validation was asked and answered `sdk`. -/
def rejections (sdk : Except SdkError Unit) (t : Traced α) : List SdkError :=
  t.calls.filterMap fun
    | .validate =>
      match sdk with
      | .error e => some e
      | .ok () => none
    | _ => none

end Traced

namespace Session

/-! ## The effects of a step -/

/-- The arguments of an operation on versions, if there is nothing wrong with them. -/
def checkedArguments? : Step → Option (List String)
  | .operate op => op.arguments.toOption
  | .run _ _ | .setSdk _ _ | .setSpawner _ | .setHandler _ => none

/-- What an operation on versions leaves before it runs. -/
def opening (st : Step) : List Effect :=
  (checkedArguments? st).toList.map fun arguments => .logged (Runner.operating arguments)

/-- What a run leaves up to the answer of the spawner. -/
def submission (s : Session) (c : Script) (q : SpawnRequest) : List Effect :=
  [.asked .validate, .asked .gcloudPath, .logged ((s.runner c).submitting q), .asked (.spawn q)]

/-- The effects and the result of a step with the collaborators `c`, by the first stage that fails.
-/
inductive Narrated (s : Session) (c : Script) : Step → List Effect → Except AppError Unit → Prop
  | replacing {st : Step} (h : isReplacement st = true) : Narrated s c st [] (.ok ())
  | noVersions {op : Operation} {e : AppError} (h : op.arguments = .error e) :
      Narrated s c (.operate op) [] (.error e)
  | invalidSdk {st : Step} {arguments : List String} {directory : Option Path} {e : SdkError}
      (hs : Submits st arguments directory) (hv : c.sdk = .error e) :
      Narrated s c st (opening st ++ [.asked .validate, .logged ((s.runner c).rejected e)])
        (.error (.sdk e))
  | notSpawned {st : Step} {arguments : List String} {directory : Option Path} {e : IoError}
      (hs : Submits st arguments directory) (hv : c.sdk = .ok ()) :
      Narrated s c st (opening st ++ s.submission c (s.request c arguments directory))
        (.error (.io e))
  | notHandled {st : Step} {arguments : List String} {directory : Option Path} {n : Nat}
      {e : HandlerError} (hs : Submits st arguments directory) (hv : c.sdk = .ok ()) :
      Narrated s c st
        (opening st ++ (s.submission c (s.request c arguments directory) ++ [.asked (.handle n)]))
        (.error (.handler e))
  | completed {st : Step} {arguments : List String} {directory : Option Path} {n : Nat}
      (hs : Submits st arguments directory) (hv : c.sdk = .ok ()) :
      Narrated s c st
        (opening st ++ (s.submission c (s.request c arguments directory) ++
          [.asked (.handle n), .logged (s.runner c).completed]))
        (.ok ())

/-- Whatever step submits the arguments: its effects are those of the run, after its opening. -/
theorem run_narrated (s : Session) (c : Script) {st : Step} {arguments : List String}
    {directory : Option Path} (hs : Submits st arguments directory) :
    Narrated s c st (opening st ++ ((s.runner c).run arguments directory).run.effects)
      ((s.runner c).run arguments directory).run.value := by
  rcases hv : c.sdk with e | _
  · rw [Runner.run_of_invalid_sdk ((validate_value s c).trans hv)]
    exact .invalidSdk hs hv
  · have hv' : (s.runner c).backend.validate.run.value = .ok () := (validate_value s c).trans hv
    have hp' := spawn_value s c (s.request c arguments directory)
    rcases hp : c.spawner with e | _
    · rw [hp] at hp'
      rw [Runner.run_of_failed_spawn rfl hv' hp']
      exact .notSpawned hs hv
    · rw [hp] at hp'
      rw [Runner.run_of_spawned rfl hv' hp', handle_value]
      rcases c.handler with e | _
      · exact .notHandled hs hv
      · exact .completed hs hv

theorem step_narrated (s : Session) (c : Script) (st : Step) :
    Narrated s c st (s.step c st).run.effects (s.step c st).run.value := by
  cases st with
  | operate op =>
    show Narrated s c _ ((s.runner c).operate op).run.effects ((s.runner c).operate op).run.value
    rcases ha : op.arguments with e | arguments
    · rw [Runner.operate_of_no_arguments ha]
      exact .noVersions ha
    · have hn := run_narrated s c (.operation ha)
      have ho : opening (.operate op) = [.logged (Runner.operating arguments)] := by
        rw [opening, checkedArguments?, ha]
        rfl
      rw [ho] at hn
      rw [Runner.operate_of_arguments ha]
      exact hn
  | run arguments directory => exact run_narrated s c (.run arguments directory)
  | setSdk sdk gcloud => exact .replacing rfl
  | setSpawner spawner => exact .replacing rfl
  | setHandler handler => exact .replacing rfl

/-! ## The entries of a step -/

theorem calls_of_opening {α : Type} {t : Traced α} {st : Step} {rest : List Effect}
    (h : t.effects = opening st ++ rest) : t.calls = (⟨rest, ()⟩ : Traced Unit).calls := by
  rw [Traced.calls, h, opening]
  cases checkedArguments? st with
  | none => rfl
  | some arguments => rfl

theorem entries_of_opening {α : Type} {t : Traced α} {st : Step} {rest : List Effect}
    (h : t.effects = opening st ++ rest) :
    t.entries = (checkedArguments? st).toList.map Runner.operating ++
      (⟨rest, ()⟩ : Traced Unit).entries := by
  rw [Traced.entries, h, opening]
  cases checkedArguments? st with
  | none => rfl
  | some arguments => rfl

theorem isReplacement_of_submits {st : Step} {arguments : List String} {directory : Option Path}
    (h : Submits st arguments directory) : isReplacement st = false := by
  cases h with
  | operation _ => rfl
  | run _ _ => rfl

/-- Whether a step was an operation that went well. -/
def succeeded (st : Step) (t : Traced (Except AppError Unit)) : Bool :=
  !isReplacement st && t.value.isOk

theorem checkedArguments_of_replacement {st : Step} (h : isReplacement st = true) :
    checkedArguments? st = none := by
  cases st with
  | operate op => cases h
  | run arguments directory => cases h
  | setSdk sdk gcloud => rfl
  | setSpawner spawner => rfl
  | setHandler handler => rfl

/-- The log of a step is told by its arguments, by what was wrong with the SDK, by its request and
by its result, in this order; there is nothing else in it. -/
theorem entries_of_narrated {s : Session} {c : Script} {st : Step}
    {t : Traced (Except AppError Unit)} (h : Narrated s c st t.effects t.value) :
    t.entries =
      (checkedArguments? st).toList.map Runner.operating ++
        ((t.rejections c.sdk).map (s.runner c).rejected ++
          (t.spawned.map (s.runner c).submitting ++
            List.replicate (succeeded st t).toNat (s.runner c).completed)) := by
  unfold Traced.rejections Traced.spawned succeeded
  generalize he : t.effects = effects at h
  generalize t.value = result at h ⊢
  cases h with
  | replacing h =>
    rw [Traced.entries, Traced.calls, he, h, checkedArguments_of_replacement h]
    rfl
  | noVersions h =>
    rw [Traced.entries, Traced.calls, he, checkedArguments?, h]
    rfl
  -- The cases differ in the effects after the opening, and from these both sides are computed.
  | invalidSdk hs hv | notSpawned hs hv | notHandled hs hv | completed hs hv =>
    rw [calls_of_opening he, entries_of_opening he, isReplacement_of_submits hs, hv]
    rfl

theorem filter_map_message {β : Type} (f : β → Log.Entry) {message : String}
    (h : ∀ b, (f b).message = message) (bs : List β) (wanted : String) :
    (bs.map f).filter (·.message = wanted) = if message = wanted then bs.map f else [] := by
  by_cases hm : message = wanted
  · rw [if_pos hm, List.filter_eq_self]
    intro e he
    obtain ⟨b, -, rfl⟩ := List.mem_map.mp he
    exact decide_eq_true ((h b).trans hm)
  · rw [if_neg hm, List.filter_eq_nil_iff]
    intro e he
    obtain ⟨b, -, rfl⟩ := List.mem_map.mp he
    rw [h b]
    exact mt of_decide_eq_true hm

/-- The entries of a step with a message, whatever the message is. -/
theorem told_of_narrated {s : Session} {c : Script} {st : Step}
    {t : Traced (Except AppError Unit)} (h : Narrated s c st t.effects t.value) (message : String) :
    t.told message =
      (if "Running app versions command" = message then
        (checkedArguments? st).toList.map Runner.operating else []) ++
      ((if "Cloud SDK validation failed" = message then
        (t.rejections c.sdk).map (s.runner c).rejected else []) ++
      ((if "Submitting gcloud command" = message then
        t.spawned.map (s.runner c).submitting else []) ++
      if "gcloud command completed" = message then
        List.replicate (succeeded st t).toNat (s.runner c).completed else [])) := by
  rw [Traced.told, entries_of_narrated h, List.filter_append, List.filter_append,
    List.filter_append, filter_map_message Runner.operating (fun _ => rfl),
    filter_map_message (s.runner c).rejected (fun _ => rfl),
    filter_map_message (s.runner c).submitting (fun _ => rfl), List.filter_replicate]
  simp only [decide_eq_true_eq]
  rfl

/-- What an operation says of its arguments is the first that it leaves. -/
theorem opening_of_narrated {s : Session} {c : Script} {st : Step} {effects : List Effect}
    {result : Except AppError Unit} (h : Narrated s c st effects result) :
    opening st <+: effects := by
  cases h with
  | replacing h =>
    rw [opening, checkedArguments_of_replacement h]
    exact List.nil_prefix
  | noVersions h =>
    rw [opening, checkedArguments?, h]
    exact List.nil_prefix
  | invalidSdk _ _ | notSpawned _ _ | notHandled _ _ | completed _ _ =>
    exact List.prefix_append _ _

/-- A step submits one request at most. -/
theorem spawned_of_conducted {s : Session} {c : Script} {st : Step}
    {t : Traced (Except AppError Unit)} (h : Conducted s c st t.calls t.value) :
    t.spawned = [] ∨ ∃ arguments directory, Submits st arguments directory ∧
      t.spawned = [s.request c arguments directory] := by
  unfold Traced.spawned
  generalize t.calls = calls at h ⊢
  generalize t.value = result at h
  cases h with
  | replacing _ => exact .inl rfl
  | noVersions _ _ => exact .inl rfl
  | invalidSdk _ _ => exact .inl rfl
  | notSpawned hs _ _ => exact .inr ⟨_, _, hs, rfl⟩
  | handled hs _ _ => exact .inr ⟨_, _, hs, rfl⟩

/-! ## The log of a step -/

/-- The log of a step `st` agrees with what happened in it, where `t` is its trace with the
collaborators `c`. -/
structure Faithful (c : Script) (st : Step) (t : Traced (Except AppError Unit)) : Prop where
  submitting : (t.told "Submitting gcloud command").map (·.field? "command") =
    t.spawned.map fun q => some (" ".intercalate q.command)
  submitting_once : (t.told "Submitting gcloud command").length ≤ 1
  rejecting : (t.told "Cloud SDK validation failed").map (·.field? "error") =
    (t.rejections c.sdk).map fun e => some e.wording
  completing : (t.told "gcloud command completed").length = (succeeded st t).toNat
  operating : (t.told "Running app versions command").map (·.field? "arguments") =
    (checkedArguments? st).toList.map fun arguments => some (Text.quotedList arguments)
  operating_first : ∀ e ∈ t.told "Running app versions command", t.effects.head? = some (.logged e)
  carried : ∀ arguments, checkedArguments? st = some arguments → ∀ q ∈ t.spawned,
    ∃ gcloud flags, q.command = gcloud :: (arguments ++ flags)

theorem faithful_step (s : Session) (c : Script) (st : Step) :
    Faithful c st (s.step c st).run := by
  have h := step_narrated s c st
  have hspawned := spawned_of_conducted (step_conducted s c st)
  have hsubmitting := told_of_narrated h "Submitting gcloud command"
  have hrejecting := told_of_narrated h "Cloud SDK validation failed"
  have hcompleting := told_of_narrated h "gcloud command completed"
  have hoperating := told_of_narrated h "Running app versions command"
  simp only [String.reduceEq, if_true, if_false, List.nil_append, List.append_nil]
    at hsubmitting hrejecting hcompleting hoperating
  constructor
  case submitting =>
    rw [hsubmitting, List.map_map]
    rfl
  case submitting_once =>
    rw [hsubmitting, List.length_map]
    rcases hspawned with hn | ⟨_, _, _, hn⟩
    · simp [hn]
    · simp [hn]
  case rejecting =>
    rw [hrejecting, List.map_map]
    exact List.map_congr_left fun e _ => congrArg some e.message_eq
  case completing => rw [hcompleting, List.length_replicate]
  case operating =>
    rw [hoperating, List.map_map]
    rfl
  case operating_first =>
    intro e he
    rw [hoperating] at he
    obtain ⟨arguments, ha, rfl⟩ := List.mem_map.mp he
    obtain ⟨rest, hr⟩ := opening_of_narrated h
    rw [← hr, opening, Option.mem_toList.mp ha]
    rfl
  case carried =>
    intro arguments ha q hq
    rcases hspawned with hn | ⟨submitted, directory, hs, hn⟩
    · rw [hn] at hq
      cases hq
    · rw [hn] at hq
      cases List.mem_singleton.mp hq
      cases hs with
      | operation hop =>
        rw [checkedArguments?, hop] at ha
        cases ha
        exact ⟨_, _, rfl⟩
      | run _ _ => cases ha

/-! ## The log of a session -/

theorem length_submitting_play (s : Session) (script : Script) (steps : List Step) :
    ((s.play script steps).flatMap (Traced.told "Submitting gcloud command")).length =
      ((s.play script steps).flatMap Traced.spawned).length := by
  induction steps generalizing script with
  | nil => rfl
  | cons st rest ih =>
    have hst := congrArg List.length (faithful_step s script st).submitting
    rw [List.length_map, List.length_map] at hst
    rw [play, List.flatMap_cons, List.flatMap_cons, List.length_append, List.length_append, hst, ih]

theorem length_completing_play (s : Session) (script : Script) (steps : List Step) :
    ((s.play script steps).flatMap (Traced.told "gcloud command completed")).length =
      (steps.zip (s.play script steps)).countP fun (st, t) => succeeded st t := by
  induction steps generalizing script with
  | nil => rfl
  | cons st rest ih =>
    rw [play, List.flatMap_cons, List.length_append, (faithful_step s script st).completing, ih,
      List.zip_cons_cons, List.countP_cons, Nat.add_comm]
    exact congrArg (_ + ·) (Bool.cond_eq_ite ..)

/-- The log of a session agrees with what happened. In every step there is an entry for the request
that is submitted, with the tokens of its command and a blank between any two, exactly when the
spawner is asked; one for an SDK that is not valid, with what is wrong with it; one for the end of an
operation that went well; and, before all else, one for an operation on versions with the arguments
that its request carries. Over the whole session as many requests were submitted as the spawner was
asked for, and as many operations ended as went well. -/
theorem the_log_agrees_with_what_happened (s : Session) (script : Script) (steps : List Step) :
    (∀ i st, steps[i]? = some st → ∃ t, (s.play script steps)[i]? = some t ∧
      Faithful (scriptAfter script (steps.take i)) st t) ∧
    ((s.play script steps).flatMap (Traced.told "Submitting gcloud command")).length =
      ((s.play script steps).flatMap Traced.spawned).length ∧
    ((s.play script steps).flatMap (Traced.told "gcloud command completed")).length =
      (steps.zip (s.play script steps)).countP fun (st, t) => succeeded st t := by
  refine ⟨?_, length_submitting_play s script steps, length_completing_play s script steps⟩
  intro i st h
  exact ⟨_, getElem?_play s h, faithful_step s _ st⟩

/-- A version is deleted whose name has quotes in it, and gcloud fails; nothing is stopped, as no
version is named; a listing goes well, until the SDK is found to be too old. -/
theorem the_log_of_a_failed_deletion_and_two_listings :
    let s : Session := ⟨{}, "linux", none, "a"⟩
    let script : Script := ⟨.ok (), ⟨"/gcloud"⟩, .ok (), .error (.nonZeroExit (some 3))⟩
    let deletion : Step := .operate (.delete { versions := ["a \"b\""] })
    let listing : Step := .operate (.list {})
    let steps : List Step := [deletion, .setHandler (.ok ()), .operate (.stop { versions := [] }),
      listing, .setSdk (.error (.outOfDate "250.0.0" "296.0.0")) ⟨"/gcloud"⟩, listing]
    steps[0]? = some deletion ∧ (∃ t, (s.play script steps)[0]? = some t ∧
      (t.told "Running app versions command").map (·.field? "arguments") =
        [some "[\"app\", \"versions\", \"delete\", \"a \\\"b\\\"\"]"] ∧
      (t.told "Submitting gcloud command").map (·.field? "command") =
        [some "/gcloud app versions delete a \"b\""]) ∧
      steps[5]? = some listing ∧ (∃ t, (s.play script steps)[5]? = some t ∧
      (t.told "Cloud SDK validation failed").map (·.field? "error") =
        [some "Cloud SDK 250.0.0 is out of date, version 296.0.0 or newer is required"]) ∧
      ((s.play script steps).flatMap (Traced.told "Submitting gcloud command")).length = 2 ∧
      ((s.play script steps).flatMap (Traced.told "gcloud command completed")).length = 1 := by
  intro s script deletion listing steps
  obtain ⟨hsteps, hsubmitting, hcompleting⟩ := the_log_agrees_with_what_happened s script steps
  refine ⟨rfl, ?_, rfl, ?_, hsubmitting.trans rfl, hcompleting.trans rfl⟩
  · obtain ⟨t, ht, hf⟩ := hsteps 0 deletion rfl
    refine ⟨t, ht, hf.operating.trans (by decide), hf.submitting.trans ?_⟩
    obtain rfl := Option.some.inj ht
    decide
  · obtain ⟨t, ht, hf⟩ := hsteps 5 listing rfl
    refine ⟨t, ht, hf.rejecting.trans ?_⟩
    obtain rfl := Option.some.inj ht
    decide

end Session

end AppVersions
