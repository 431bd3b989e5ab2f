-- The laws of the program: the first stage that fails decides how a run ends, and whatever a child
-- wrote is printed before that.
import AppVersions.Program
import AppVersions.Proofs.Captures
import AppVersions.Proofs.CommandLine.Invocation
import AppVersions.Proofs.Sessions
import AppVersions.Proofs.Wording

namespace AppVersions

open CommandLine (Invocation)

/-! ## Traces without the log -/

def Effect.isLogged : Effect → Bool
  | .logged _ => true
  | _ => false

/-- What some effects print on a stream. -/
def printed (stream : OutputStream) (es : List Effect) : String :=
  String.join (es.map fun
    | .printed s text => if s = stream then text else ""
    | _ => "")

theorem printed_append (stream : OutputStream) (es more : List Effect) :
    printed stream (es ++ more) = printed stream es ++ printed stream more := by
  unfold printed
  rw [List.map_append, String.join_append]

theorem printed_cons (stream : OutputStream) (e : Effect) (es : List Effect) :
    printed stream (e :: es) = printed stream [e] ++ printed stream es :=
  printed_append stream [e] es

/-- Lines that are printed as they come are the lines of either stream. -/
theorem printed_deliveries (stream : OutputStream) (ds : List Delivery) :
    printed stream (ds.map fun d => .printed d.1 (d.2 ++ "\n")) = textOf (linesOf stream ds) := by
  induction ds with
  | nil => rfl
  | cons d ds ih =>
    rw [List.map_cons, printed_cons, ih, linesOf_cons]
    unfold textOf
    rw [List.map_append, String.join_append]
    by_cases hd : d.1 = stream
    · simp [printed, linesOf, hd]
    · simp [printed, linesOf, hd]

/-- Without a log, only what is printed is written. -/
theorem printed_of_silent {filter : Log.Filter} (h : ∀ e, filter.passes e = false) (stamp : String)
    (stream : OutputStream) (es : List Effect) :
    String.join (es.map (Program.written filter stamp stream)) =
      printed stream (es.filter (!·.isLogged)) := by
  induction es with
  | nil => rfl
  | cons e es ih =>
    rw [List.map_cons, String.join_cons, ih]
    cases e <;> simp [Program.written, h, Effect.isLogged, printed]

namespace Traced

variable {α β : Type}

/-- The same without log entries. -/
def unlogged (x : Traced α) : Traced α := ⟨x.effects.filter (!·.isLogged), x.value⟩

@[simp]
theorem unlogged_bind (x : Traced α) (f : α → Traced β) :
    (x >>= f).unlogged = x.unlogged >>= fun a => (f a).unlogged := by
  apply Traced.ext
  · exact List.filter_append _ _
  · rfl

@[simp]
theorem unlogged_log (e : Log.Entry) : (log e).unlogged = pure () := rfl

theorem unlogged_run_bind {ε : Type} (x : Run ε α) (f : α → Run ε β) :
    (x >>= f).run.unlogged = x.run.unlogged >>= fun
      | .ok a => (f a).run.unlogged
      | .error e => pure (.error e) := by
  rw [ExceptT.run_bind, unlogged_bind]
  refine congrArg (x.run.unlogged >>= ·) (funext fun verdict => ?_)
  rcases verdict with e | a <;> rfl

theorem unlogged_run_adapt {ε ε' : Type} (x : Run ε α) (f : ε → ε') :
    (x.adapt f).run.unlogged = (·.mapError f) <$> x.run.unlogged := by
  show (_ <$> x.run).unlogged = _
  rw [map_eq_pure_bind, unlogged_bind]
  rfl

theorem calls_unlogged (x : Traced α) : x.unlogged.calls = x.calls := by
  obtain ⟨es, a⟩ := x
  induction es with
  | nil => rfl
  | cons e es ih => cases e <;> simpa [unlogged, Effect.isLogged, calls] using ih

theorem kept_unlogged (x : Traced α) : x.unlogged.kept? = x.kept? := by
  unfold kept? unlogged
  rw [List.filterMap_filter]
  refine congrArg List.getLast? (List.filterMap_congr fun e _ => ?_)
  cases e <;> rfl

theorem unlogged_withKept (x : Traced α) : x.withKept.unlogged = x.unlogged.withKept := by
  have h := x.kept_unlogged
  apply Traced.ext
  · rfl
  · exact congrArg (x.value, ·) h.symm

end Traced

/-! ## Stages -/

theorem Child.judgement_of_broken {c : Child} {e : IoError}
    (h : (broken? c.stdout).or (broken? c.stderr) = some e) : c.judgement = .error (.io e) := by
  have hr : c.isReadToEnd = false := by
    unfold isReadToEnd
    rcases hb : broken? c.stdout with _ | e'
    · rw [hb, Option.none_or] at h
      rw [h]
      rfl
    · rfl
  obtain ⟨e', he, ho⟩ := outcome_of_broken hr
  cases he.symm.trans h
  rw [← c.outcome_bind, ho]
  rfl

theorem Sdk.unlogged_validate (sdk : Sdk) (host : Host) :
    (sdk.validate host).run.unlogged = pure ((sdk.check host).map fun _ => ()) := by
  unfold validate
  rcases sdk.check host with e | v <;> rfl

/-- The lines of a child are printed as they come. -/
theorem unlogged_streaming (c : Child) :
    (streaming printingListener c).run.unlogged =
      ⟨c.deliveries.map fun d => .printed d.1 (d.2 ++ "\n"), c.judgement⟩ := by
  have hd : ∀ ds : List Delivery, (ds.flatMap fun d => (printingListener d).effects).filter
      (!·.isLogged) = ds.map fun d => .printed d.1 (d.2 ++ "\n") := by
    intro ds
    induction ds with
    | nil => rfl
    | cons d ds ih => exact congrArg (_ :: ·) ih
  have hl : (c.outcome.toOption.toList.map fun status =>
      Effect.logged (exited status)).filter (!·.isLogged) = [] := by
    rcases c.outcome with e | status <;> rfl
  rw [run_streaming]
  apply Traced.ext
  · show List.filter _ (_ ++ _) = _
    rw [List.filter_append, hd, hl, List.append_nil]
  · rfl

/-- The lines of a child are kept once they are all there. -/
theorem unlogged_keeping (h : Handling) :
    (keeping h.timing h.child).run.unlogged =
      ⟨if h.isComplete then [.kept h.capture] else [], h.child.judgement⟩ := by
  have he : (capturing h.timing none h.child).unlogged =
      pure (h.child.judgement, if h.isComplete then some h.capture else none) := by
    rw [← h.capturing_value]
    apply Traced.ext
    · unfold capturing
      rw [Traced.unlogged_bind, run_logOutcome]
      rcases h.child.outcome with e | status <;> rfl
    · rfl
  unfold keeping
  rw [Traced.run_liftM_bind, Traced.unlogged_bind, he]
  rcases h.child.judgement with e | _
  · cases h.isComplete <;> rfl
  · cases h.isComplete <;> rfl

namespace Program

/-! ## Runs of gcloud -/

/-- The request for an operation, with the gcloud of an installation. -/
def requestOf (host : Host) (sdk : Sdk) (options : GcloudOptions) (op : Operation) :
    SpawnRequest where
  command := commandLine (absolute host.currentDirectory sdk.gcloudPath)
    (["app", "versions", op.name] ++ op.versions ++ op.flags) options
  directory := none
  overlay := options.overlay host.os

/-- A valid installation is asked to launch one request, and its process is attended to. -/
def launched (host : Host) (sdk : Sdk) (options : GcloudOptions) (op : Operation)
    (attend : Child → Traced (Except AppError Unit)) : Traced (Except AppError Unit) :=
  match sdk.check host with
  | .error e => pure (.error (.sdk e))
  | .ok _ => do
    .leave (.asked (.spawn (requestOf host sdk options op)))
    match host.launch (requestOf host sdk options op) with
    | .error e => return .error (.io e)
    | .ok c => attend c

section
variable {host : Host} {sdk : Sdk} {options : GcloudOptions} {op : Operation}
  (ha : op.arguments = .ok (["app", "versions", op.name] ++ op.versions ++ op.flags))
include ha

theorem unlogged_run (handle : Child → Run HandlerError Unit) :
    ((runner host sdk options handle).operate op).run.unlogged =
      launched host sdk options op fun c => (·.mapError .handler) <$> (handle c).run.unlogged := by
  have hg : (runner host sdk options handle).backend.gcloudPath = pure sdk.gcloudPath := rfl
  have hs : ∀ q, ((runner host sdk options handle).backend.spawn q).run.unlogged =
      .leave (.asked (.spawn q)) >>= fun _ => pure (host.launch q) := fun _ => rfl
  have hq : (runner host sdk options handle).request sdk.gcloudPath _ none =
      requestOf host sdk options op := rfl
  unfold Runner.operate
  rw [ha]
  unfold Runner.run launched
  simp only [Traced.run_liftM_bind, Traced.unlogged_bind, Traced.unlogged_log, pure_bind]
  show ((sdk.validate host).run.unlogged >>= _) = _
  rw [sdk.unlogged_validate, pure_bind]
  rcases sdk.check host with e | v
  · rfl
  · simp only [Except.map, Traced.run_liftM_bind, Traced.unlogged_bind, Traced.unlogged_log, hg,
      hs, hq, pure_bind, bind_assoc]
    refine congrArg (Traced.leave _ >>= ·) (funext fun _ => ?_)
    rcases host.launch (requestOf host sdk options op) with e | c
    · rfl
    · simp only [Traced.run_liftM_bind, Traced.unlogged_bind]
      refine congrArg ((handle c).run.unlogged >>= ·) (funext fun verdict => ?_)
      rcases verdict with e | _ <;> rfl

end

/-! ## What comes of a process -/

/-- What is passed on of the process of an operation, and the verdict. -/
def attended (host : Host) (json : Bool) (op : Operation) (c : Child) :
    Traced (Except AppError Unit) where
  effects :=
    match done? op with
    | some text =>
      c.deliveries.map (fun d => .printed d.1 (d.2 ++ "\n")) ++
        match c.judgement with
        | .ok _ => [.printed .stdout text]
        | .error _ => []
    | none =>
      let capture := Handling.capture ⟨host.timing, c⟩
      if c.isReadToEnd then .kept capture :: (present json capture).unlogged.effects else []
  value := c.judgement.mapError .handler

theorem unlogged_operate {host : Host} {sdk : Sdk} {options : GcloudOptions} {op : Operation}
    (json : Bool)
    (ha : op.arguments = .ok (["app", "versions", op.name] ++ op.versions ++ op.flags)) :
    (operate host sdk options json op).run.unlogged =
      launched host sdk options op (attended host json op) := by
  unfold operate
  rcases hd : done? op with _ | text
  · simp only [Traced.run_liftM_bind, Traced.unlogged_bind, Traced.unlogged_withKept,
      unlogged_run ha]
    unfold launched attended
    rw [hd]
    rcases sdk.check host with e | v
    · rfl
    · rcases host.launch (requestOf host sdk options op) with e | c
      · rfl
      · have hk := unlogged_keeping ⟨host.timing, c⟩
        dsimp only at hk ⊢
        rw [hk]
        unfold Handling.isComplete
        cases c.isReadToEnd <;> rcases c.judgement with e | _ <;> cases json <;> rfl
  · dsimp only
    rw [Traced.unlogged_run_bind, unlogged_run ha]
    unfold launched attended
    rw [hd]
    rcases sdk.check host with e | v
    · rfl
    · rcases host.launch (requestOf host sdk options op) with e | c
      · rfl
      · dsimp only
        rw [unlogged_streaming]
        rcases c.judgement with e | _
        · apply Traced.ext
          · exact List.append_nil _
          · rfl
        · apply Traced.ext
          · show ([_] ++ (_ ++ [])) ++ [_] = [_] ++ (_ ++ [_])
            rw [List.append_nil, List.append_assoc]
          · rfl

/-! ## Stages before gcloud -/

/-- A configuration file is only read, and what it sets lies under the command line. -/
theorem unlogged_resolve (host : Host) (config : Option Path) (options : GcloudOptions) :
    (Config.resolve host config options).run.unlogged =
      pure (Config.resolve host config options).run.value := by
  unfold Config.resolve Config.load
  rcases config with _ | p
  · rfl
  · dsimp only
    rcases host.readText p with e | contents
    · rfl
    · dsimp only
      rcases Config.parse contents with e | o
      · rfl
      · rfl

theorem unlogged_locate (host : Host) (home : Option Path) :
    (locate host home).run.unlogged = pure (locate host home).run.value := by
  unfold locate
  rcases home with _ | home
  · dsimp only
    rcases Sdk.discover host with e | sdk
    · rfl
    · rfl
  · rfl

/-! ## Courses -/

/-- Every stage before the launch succeeds, and this is what is to be launched. -/
inductive Due (host : Host) (i : Invocation) : SpawnRequest → Prop
  | intro {options : GcloudOptions} {sdk : Sdk} {version : Version}
      (ho : (Config.resolve host i.config i.options).run.value = .ok options)
      (hl : (locate host i.sdkHome).run.value = .ok sdk) (hv : sdk.check host = .ok version) :
      Due host i (requestOf host sdk options i.operation)

/-- How far an invocation gets: what is to be launched, the process, and the first failure. -/
inductive Course (host : Host) (i : Invocation) :
    Option SpawnRequest → Option Child → Option Failure → Prop
  | unsettled {e : ConfigError}
      (ho : (Config.resolve host i.config i.options).run.value = .error e) :
      Course host i none none (some (.config e))
  | unlocated {options : GcloudOptions} {e : SdkError}
      (ho : (Config.resolve host i.config i.options).run.value = .ok options)
      (hl : (locate host i.sdkHome).run.value = .error e) :
      Course host i none none (some (.app (.sdk e)))
  | invalid {options : GcloudOptions} {sdk : Sdk} {e : SdkError}
      (ho : (Config.resolve host i.config i.options).run.value = .ok options)
      (hl : (locate host i.sdkHome).run.value = .ok sdk) (hv : sdk.check host = .error e) :
      Course host i none none (some (.app (.sdk e)))
  | unlaunched {request : SpawnRequest} {e : IoError} (hd : Due host i request)
      (hs : host.launch request = .error e) :
      Course host i (some request) none (some (.app (.io e)))
  | unread {request : SpawnRequest} {c : Child} {e : IoError} (hd : Due host i request)
      (hs : host.launch request = .ok c) (hb : (broken? c.stdout).or (broken? c.stderr) = some e) :
      Course host i (some request) (some c) (some (.app (.handler (.io e))))
  | exited {request : SpawnRequest} {c : Child} (hd : Due host i request)
      (hs : host.launch request = .ok c) (hr : c.isReadToEnd = true) (hx : c.status.raw ≠ 0) :
      Course host i (some request) (some c) (some (.app (.handler (.nonZeroExit c.status.code))))
  | done {request : SpawnRequest} {c : Child} (hd : Due host i request)
      (hs : host.launch request = .ok c) (hr : c.isReadToEnd = true) (hx : c.status.raw = 0) :
      Course host i (some request) (some c) none

/-- Whatever the surroundings do, an invocation takes a course. -/
theorem exists_course (host : Host) (i : Invocation) :
    ∃ request child failure, Course host i request child failure := by
  rcases ho : (Config.resolve host i.config i.options).run.value with e | options
  · exact ⟨_, _, _, .unsettled ho⟩
  · rcases hl : (locate host i.sdkHome).run.value with e | sdk
    · exact ⟨_, _, _, .unlocated ho hl⟩
    · rcases hv : sdk.check host with e | version
      · exact ⟨_, _, _, .invalid ho hl hv⟩
      · have hd : Due host i _ := .intro ho hl hv
        rcases hs : host.launch (requestOf host sdk options i.operation) with e | c
        · exact ⟨_, _, _, .unlaunched hd hs⟩
        · cases hr : c.isReadToEnd with
          | true =>
            by_cases hx : c.status.raw = 0
            · exact ⟨_, _, _, .done hd hs hr hx⟩
            · exact ⟨_, _, _, .exited hd hs hr hx⟩
          | false =>
            obtain ⟨e, hb, _⟩ := Child.outcome_of_broken hr
            exact ⟨_, _, _, .unread hd hs hb⟩

/-- What a failure comes to as a result. -/
def verdictOf : Option Failure → Except Failure Unit
  | none => .ok ()
  | some e => .error e

section
variable {host : Host} {i : Invocation}
  (ha : i.operation.arguments =
    .ok (["app", "versions", i.operation.name] ++ i.operation.versions ++ i.operation.flags))
include ha

theorem unlogged_of_settled {options : GcloudOptions} {sdk : Sdk}
    (ho : (Config.resolve host i.config i.options).run.value = .ok options)
    (hl : (locate host i.sdkHome).run.value = .ok sdk) :
    (run host i).run.unlogged =
      (·.mapError .app) <$> launched host sdk options i.operation
        (attended host i.json i.operation) := by
  unfold run
  rw [Traced.unlogged_run_bind, Traced.unlogged_run_adapt, unlogged_resolve, ho]
  show Traced.unlogged (ExceptT.run (_ >>= _)) = _
  rw [Traced.unlogged_run_bind, Traced.unlogged_run_adapt, unlogged_locate, hl]
  show Traced.unlogged (ExceptT.run (ExceptT.adapt _ _)) = _
  rw [Traced.unlogged_run_adapt, unlogged_operate _ ha]

theorem unlogged_of_due {request : SpawnRequest} (hd : Due host i request) :
    (run host i).run.unlogged = .leave (.asked (.spawn request)) >>= fun _ =>
      match host.launch request with
      | .error e => pure (.error (.app (.io e)))
      | .ok c => (·.mapError .app) <$> attended host i.json i.operation c := by
  obtain ⟨ho, hl, hv⟩ := hd
  rw [unlogged_of_settled ha ho hl, launched, hv]
  dsimp only
  rw [map_bind]
  refine congrArg (Traced.leave _ >>= ·) (funext fun _ => ?_)
  rcases host.launch _ with e | c <;> rfl

theorem unlogged_of_spawned {request : SpawnRequest} {c : Child} (hd : Due host i request)
    (hs : host.launch request = .ok c) :
    (run host i).run.unlogged =
      ⟨.asked (.spawn request) :: (attended host i.json i.operation c).effects,
        c.judgement.mapError (.app ∘ .handler)⟩ := by
  rw [unlogged_of_due ha hd, hs]
  apply Traced.ext
  · exact congrArg (_ :: ·) (List.append_nil _)
  · show (c.judgement.mapError _).mapError _ = _
    rcases c.judgement with e | _ <;> rfl

/-- Without the log, a run leaves the request and what comes of the process. -/
theorem unlogged_of_course {request : Option SpawnRequest} {child : Option Child}
    {failure : Option Failure} (h : Course host i request child failure) :
    (run host i).run.unlogged =
      ⟨request.toList.map (.asked ∘ .spawn) ++
        child.toList.flatMap fun c => (attended host i.json i.operation c).effects,
        verdictOf failure⟩ := by
  have hs : ∀ {request c failure}, Due host i request → host.launch request = .ok c →
      c.judgement.mapError (.app ∘ .handler) = verdictOf failure →
      (run host i).run.unlogged = ⟨.asked (.spawn request) ::
        ((attended host i.json i.operation c).effects ++ []), verdictOf failure⟩ := by
    intro request c failure hd hs hj
    rw [unlogged_of_spawned ha hd hs, hj, List.append_nil]
  cases h with
  | unsettled ho =>
    unfold run
    rw [Traced.unlogged_run_bind, Traced.unlogged_run_adapt, unlogged_resolve, ho]
    rfl
  | unlocated ho hl =>
    unfold run
    rw [Traced.unlogged_run_bind, Traced.unlogged_run_adapt, unlogged_resolve, ho]
    show Traced.unlogged (ExceptT.run (_ >>= _)) = _
    rw [Traced.unlogged_run_bind, Traced.unlogged_run_adapt, unlogged_locate, hl]
    rfl
  | invalid ho hl hv =>
    rw [unlogged_of_settled ha ho hl, launched, hv]
    rfl
  | unlaunched hd hs =>
    rw [unlogged_of_due ha hd, hs]
    rfl
  | unread hd hl hb =>
    apply hs hd hl
    rw [Child.judgement_of_broken hb]
    rfl
  | exited hd hl hr hx =>
    apply hs hd hl
    rw [Child.judgement_of_isReadToEnd hr, if_neg hx]
    rfl
  | done hd hl hr hx =>
    apply hs hd hl
    rw [Child.judgement_of_isReadToEnd hr, if_pos hx]
    rfl

end

/-! ## Output -/

/-- What is said at the end of an operation that succeeded; a listing speaks for itself. -/
def announcement : Operation → Option Failure → String
  | .start _, none => "✓ Versions started\n"
  | .stop _, none => "✓ Versions stopped\n"
  | .delete _, none => "✓ Versions deleted\n"
  | .list _, none | _, some _ => ""

/-- The sentence on a failure. -/
def Failure.wording : Failure → String
  | .config (.unreadable path e) =>
    "Failed to read config file at " ++ path.text ++ ": " ++ e.wording
  | .config (.unfit path report) => "Failed to parse config file at " ++ path.text ++ ": " ++ report
  | .app e => e.wording

/-- What is said to remedy a failure: something for trouble with the SDK, and nothing else. -/
def Failure.remedy : Failure → String
  | .app (.sdk e) => e.remedy ++ "\n"
  | _ => ""

/-- What is said of the first failure. -/
def complaint : Option Failure → String
  | none => ""
  | some e => "Error: " ++ e.wording ++ "\n" ++ e.remedy

theorem announcement_of_success (op : Operation) : announcement op none = (done? op).getD "" := by
  cases op with
  | start _ | stop _ | delete _ | list _ => rfl

theorem announcement_of_failure (op : Operation) (e : Failure) : announcement op (some e) = "" := by
  cases op with
  | start _ | stop _ | delete _ | list _ => rfl

theorem Failure.message_eq (e : Failure) : e.message = e.wording := by
  rcases e with (⟨path, e⟩ | ⟨path, report⟩) | e
  · exact congrArg ("Failed to read config file at " ++ path.text ++ ": " ++ ·) e.message_eq
  · rfl
  · exact e.message_eq

theorem Failure.remedy_eq (e : Failure) :
    e.remedy = String.join (e.hint?.toList.map (· ++ "\n")) := by
  rcases e with e | (e | e | e | e)
  case app.sdk => simp [remedy, hint?, AppError.hint?, e.hint_eq]
  all_goals rfl

theorem isListing_of_done {op : Operation} (h : done? op = none) : op.isListing = true := by
  cases op with
  | start _ | stop _ | delete _ => cases h
  | list _ => rfl

theorem done_of_isListing {op : Operation} (h : op.isListing = true) : done? op = none := by
  cases op with
  | start _ | stop _ | delete _ => cases h
  | list _ => rfl

theorem textOf_deliveries {c : Child} (hr : c.isReadToEnd = true) (stream : OutputStream) :
    textOf (linesOf stream c.deliveries) = linedText (arrived (c.reads stream)) := by
  obtain ⟨ho, he⟩ := Child.broken_of_isReadToEnd hr
  rw [c.linesOf_deliveries]
  cases stream with
  | stdout => exact textOf_pump ho
  | stderr => exact textOf_pump he

/-- The lines of a process that was read to its end are passed on as they come or when all are
there. -/
theorem printed_attended {host : Host} {json : Bool} {op : Operation} {c : Child}
    (hr : c.isReadToEnd = true) (hj : op.isListing = true → json = false) (stream : OutputStream) :
    printed stream (attended host json op c).effects =
      linedText (arrived (c.reads stream)) ++
        if stream = .stdout ∧ c.status.raw = 0 then (done? op).getD "" else "" := by
  unfold attended
  rcases hd : done? op with _ | text
  · rw [hj (isListing_of_done hd)]
    dsimp only
    rw [if_pos hr]
    cases stream <;>
      simp [printed, present, Traced.print, Traced.leave, Traced.unlogged, Effect.isLogged,
        Handling.capture, Child.reads]
  · dsimp only
    rw [printed_append, printed_deliveries, textOf_deliveries hr,
      Child.judgement_of_isReadToEnd hr]
    by_cases hx : c.status.raw = 0 <;> cases stream <;> simp [printed, hx]

theorem printed_attended_json {host : Host} {op : Operation} {c : Child}
    (hr : c.isReadToEnd = true) (hl : op.isListing = true) (stream : OutputStream) :
    printed stream (attended host true op c).effects =
      if stream = .stdout then
        Json.encode Capture.schema .indented (Handling.capture ⟨host.timing, c⟩) ++ "\n"
      else "" := by
  unfold attended
  rw [done_of_isListing hl]
  dsimp only
  rw [if_pos hr]
  cases stream <;>
    simp [printed, present, Traced.print, Traced.leave, Traced.unlogged, Effect.isLogged]

/-- The report on the first failure comes after all that was passed on. -/
def reported (before : List Effect) (failure : Option Failure) : Traced UInt32 where
  effects := before ++
    match failure with
    | none => []
    | some e => .printed .stderr ("Error: " ++ e.message ++ "\n") ::
      e.hint?.toList.map fun hint => .printed .stderr (hint ++ "\n")
  value := if failure.isNone then 0 else 1

theorem printed_reported (before : List Effect) (failure : Option Failure) (stream : OutputStream) :
    printed stream (reported before failure).effects =
      printed stream before ++ if stream = .stderr then complaint failure else "" := by
  unfold reported
  rw [printed_append]
  congr 1
  rcases failure with _ | e
  · cases stream <;> rfl
  · dsimp only [complaint]
    rw [e.remedy_eq, ← e.message_eq]
    rcases e.hint? with _ | hint <;> cases stream <;>
      simp [printed, String.append_assoc]

theorem unlogged_perform {host : Host} {i : Invocation} {before : List Effect}
    {failure : Option Failure} (h : (run host i).run.unlogged = ⟨before, verdictOf failure⟩) :
    (perform host i).unlogged = reported before failure := by
  unfold perform
  simp only [Traced.unlogged_bind, Traced.unlogged_log, pure_bind, h]
  rcases failure with _ | e
  · rfl
  · apply Traced.ext
    · simp only [Traced.effects_bind, verdictOf, reported]
      refine congrArg (before ++ ·) ?_
      rcases e.hint? with _ | hint <;> rfl
    · simp only [Traced.value_bind, verdictOf, reported]
      rcases e.hint? with _ | hint <;> rfl

/-! ## Calls -/

/-- The collaborators are done once a process is attended to. -/
theorem calls_attended (host : Host) (json : Bool) (op : Operation) (c : Child) :
    (attended host json op c).calls = [] := by
  unfold attended Traced.calls
  rcases done? op with _ | text
  · dsimp only
    cases c.isReadToEnd
    · rfl
    · cases json <;> rfl
  · dsimp only
    rw [List.filterMap_append, List.filterMap_map]
    rcases c.judgement with e | _
    · simp
    · simp

theorem calls_reported (request : Option SpawnRequest) {es : List Effect}
    (hc : Traced.calls ⟨es, ()⟩ = []) (failure : Option Failure) :
    (reported (request.toList.map (.asked ∘ .spawn) ++ es) failure).calls =
      request.toList.map .spawn := by
  have hr : (reported [] failure).calls = [] := by
    rcases failure with _ | e
    · rfl
    · unfold reported Traced.calls
      dsimp only
      rcases e.hint? with _ | hint <;> rfl
  unfold reported Traced.calls at hr ⊢
  unfold Traced.calls at hc
  rw [List.nil_append] at hr
  rw [List.filterMap_append, List.filterMap_append, hr, hc]
  rcases request with _ | request <;> rfl

/-! ## Whole runs -/

/-- The status of a process that was read to its end decides. -/
theorem announcement_of_course {host : Host} {i : Invocation} {request : Option SpawnRequest}
    {c : Child} {failure : Option Failure} (h : Course host i request (some c) failure)
    (hr : c.isReadToEnd = true) (op : Operation) :
    announcement op failure = if c.status.raw = 0 then (done? op).getD "" else "" := by
  cases h with
  | unread _ _ hb =>
    obtain ⟨ho, he⟩ := Child.broken_of_isReadToEnd hr
    rw [ho, he] at hb
    cases hb
  | exited _ _ _ hx => exact (announcement_of_failure op _).trans (if_neg hx).symm
  | done _ _ _ hx => exact (announcement_of_success op).trans (if_pos hx).symm

/-- A command line that is accepted names versions, unless it asks for a listing. -/
theorem versions_of_parse {args : List String} {i : Invocation}
    (h : CommandLine.parse args = .ok i) :
    i.operation.versions ≠ [] ∨ i.operation.isListing = true := by
  obtain ⟨p, hp, rfl⟩ := CommandLine.parse_ok h
  obtain ⟨_, _, _, _, _, _, ha⟩ := CommandLine.readFrom_written rfl hp
  have hv := (CommandLine.readAfter_ok ha).2
  show p.operation.versions ≠ [] ∨ p.operation.isListing = true
  unfold CommandLine.Parts.operation
  cases hc : p.subcommand with
  | start | stop | delete =>
    rw [hc] at hv
    exact .inl (hv rfl)
  | list => exact .inr rfl

/-- Surroundings in which the directories and files that are looked for are there or not, all files
have the same content, and a launch comes to this. -/
def surroundings (isThere : Bool) (content : Except IoError (List UInt8))
    (launched : Except IoError Child) : Host where
  isDirectory _ := isThere
  isFile _ := isThere
  readFile _ := content
  findProgram _ := .error .notFound
  canonical? _ := none
  launch _ := launched
  currentDirectory := none
  os := "linux"
  timing := ⟨.epoch, .epoch, 0⟩
  invocation := ""

/-- A gcloud that writes on both streams. -/
def writing (status : WaitStatus) : Child where
  stdout := [.bytes [0x61, 0x0D, 0x0A], .failed (.os 4), .bytes [0x62]]
  stderr := [.bytes [0x77]]
  status := status

/-- What the version file of a recent installation holds. -/
def recentVersion : List UInt8 := [0x33, 0x30, 0x30, 0x2E, 0x30, 0x2E, 0x30, 0x0A]

theorem check_of_recent (launched : Except IoError Child) :
    Sdk.check ⟨⟨"/sdk"⟩⟩ (surroundings true (.ok recentVersion) launched) =
      .ok ⟨300, 0, 0, [], []⟩ := by
  rfl

theorem passes_off (e : Log.Entry) : (Log.Filter.chosen (some "off") 0).passes e = false := by
  have hf : Log.Filter.chosen (some "off") 0 = [{ rank := 0 }] := by decide
  rw [hf]
  unfold Log.Filter.passes
  show decide (e.level.rank ≤ 0) = false
  cases e.level <;> decide

end Program

end AppVersions
