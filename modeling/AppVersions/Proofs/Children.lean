-- The laws of children: two pumps deliver into one listener in any order, and both ways to handle a
-- child come to one verdict and keep or pass on the same lines, whatever the order was.
import AppVersions.Handler
import AppVersions.Proofs.Lines
import Mathlib.Logic.Function.Basic

namespace AppVersions

/-! ## Pumps -/

/-- A pump between two lines: it goes on with its source, or it has finished. -/
inductive Pump
  | reading (s : Source)
  | finished (result : Except IoError Unit)

namespace Pump

/-- What a pump does with its source in one turn: it delivers a line and goes on, or it finishes. -/
def turn (s : Source) : Option String × Pump :=
  match s.readLine [] with
  | .error e => (none, .finished (.error e))
  | .ok ([], _) => (none, .finished (.ok ()))
  | .ok (b :: line, rest) => (some (lineText (b :: line).reverse), .reading rest)

/-- All that is still to come from a pump. -/
def remaining : Pump → Pumped
  | .reading s => pumpFrom [] s
  | .finished result => ⟨[], result⟩

theorem pumpFrom_of_finished (finished : List String) (s : Source) :
    pumpFrom finished s = ⟨finished.reverse ++ (pumpFrom [] s).lines, (pumpFrom [] s).result⟩ := by
  simp [pumpFrom_eq]

/-- A turn delivers the first of the lines that remain. -/
theorem remaining_of_turn (s : Source) :
    (reading s).remaining = ⟨(turn s).1.toList ++ (turn s).2.remaining.lines,
      (turn s).2.remaining.result⟩ := by
  unfold remaining turn
  dsimp only
  fun_cases pumpFrom [] s with
  | case1 e hr =>
    rw [hr]
    rfl
  | case2 rest hr =>
    rw [hr]
    rfl
  | case3 b line rest hr =>
    rw [hr, pumpFrom_of_finished]
    rfl

end Pump

/-! ## Schedules -/

/-- The lines of one stream, in the order in which they were delivered. -/
def linesOf (stream : OutputStream) (ds : List Delivery) : List String :=
  ds.filterMap fun d => if d.1 = stream then some d.2 else none

theorem linesOf_append (stream : OutputStream) (ds more : List Delivery) :
    linesOf stream (ds ++ more) = linesOf stream ds ++ linesOf stream more := List.filterMap_append

theorem linesOf_cons (stream : OutputStream) (d : Delivery) (ds : List Delivery) :
    linesOf stream (d :: ds) = linesOf stream [d] ++ linesOf stream ds :=
  linesOf_append stream [d] ds

theorem linesOf_same (stream : OutputStream) (lines : List String) :
    linesOf stream (lines.map (stream, ·)) = lines := by
  simp [linesOf, List.filterMap_map]

theorem linesOf_other {stream other : OutputStream} (h : other ≠ stream) (lines : List String) :
    linesOf stream (lines.map (other, ·)) = [] := by
  simp [linesOf, h]

/-- Turns of the two pumps in any order, and the lines that they deliver. -/
inductive Scheduled : (OutputStream → Pump) → List Delivery → (OutputStream → Pump) → Prop
  | stop (ps : OutputStream → Pump) : Scheduled ps [] ps
  | turn {ps ps' : OutputStream → Pump} {stream : OutputStream} {s : Source} {ds : List Delivery}
      (hs : ps stream = .reading s)
      (h : Scheduled (Function.update ps stream (Pump.turn s).2) ds ps') :
      Scheduled ps ((Pump.turn s).1.toList.map (stream, ·) ++ ds) ps'

/-- One turn takes from what remains of its own stream what it delivers, and leaves the other stream
alone. -/
theorem remaining_of_update {ps : OutputStream → Pump} {stream : OutputStream} {s : Source}
    (hs : ps stream = .reading s) (other : OutputStream) :
    (ps other).remaining =
      ⟨linesOf other ((Pump.turn s).1.toList.map (stream, ·)) ++
        (Function.update ps stream (Pump.turn s).2 other).remaining.lines,
        (Function.update ps stream (Pump.turn s).2 other).remaining.result⟩ := by
  by_cases h : other = stream
  · subst h
    rw [Function.update_self, linesOf_same, hs]
    exact Pump.remaining_of_turn s
  · rw [Function.update_of_ne h, linesOf_other (Ne.symm h)]
    rfl

/-- Whatever the order of the turns, each stream delivers from the front of what remains of it. -/
theorem remaining_of_scheduled {ps ps' : OutputStream → Pump} {ds : List Delivery}
    (h : Scheduled ps ds ps') (stream : OutputStream) :
    (ps stream).remaining =
      ⟨linesOf stream ds ++ (ps' stream).remaining.lines, (ps' stream).remaining.result⟩ := by
  induction h with
  | stop ps => rfl
  | turn hs h ih =>
    rw [remaining_of_update hs stream, ih, linesOf_append, List.append_assoc]

theorem turn_of_no_lines {s : Source} (h : (Pump.reading s).remaining.lines = []) :
    (Pump.turn s).1 = none ∧ (Pump.turn s).2 = .finished (Pump.reading s).remaining.result := by
  have ht := Pump.remaining_of_turn s
  have hl : (Pump.turn s).1.toList = [] := by
    rw [ht] at h
    exact (List.append_eq_nil_iff.mp h).1
  rw [ht]
  unfold Pump.turn at hl ⊢
  split
  · exact ⟨rfl, rfl⟩
  · exact ⟨rfl, rfl⟩
  · rename_i b line rest hr
    rw [hr] at hl
    cases hl

theorem turn_of_lines {s : Source} {line : String} {lines : List String}
    (h : (Pump.reading s).remaining.lines = line :: lines) :
    (Pump.turn s).1 = some line ∧ (Pump.turn s).2.remaining.lines = lines := by
  have ht := Pump.remaining_of_turn s
  rw [ht] at h
  unfold Pump.turn at h ⊢
  split
  · rename_i e hr
    rw [hr] at h
    cases h
  · rename_i rest hr
    rw [hr] at h
    cases h
  · rename_i b bs rest hr
    rw [hr] at h
    obtain ⟨rfl, rfl⟩ := List.cons.inj h
    exact ⟨rfl, rfl⟩

/-- A pump without lines left comes to its end in one turn, if it is not there yet. -/
theorem scheduled_to_end {ps : OutputStream → Pump} (stream : OutputStream)
    (h : (ps stream).remaining.lines = []) :
    ∃ ps', Scheduled ps [] ps' ∧ ps' stream = .finished (ps stream).remaining.result ∧
      ∀ other, other ≠ stream → ps' other = ps other := by
  cases hs : ps stream with
  | finished result => exact ⟨ps, .stop ps, hs, fun _ _ => rfl⟩
  | reading s =>
    rw [hs] at h
    obtain ⟨hn, ho⟩ := turn_of_no_lines h
    have ht := Scheduled.turn hs (.stop _)
    rw [hn, ho] at ht
    exact ⟨_, ht, Function.update_self .., fun _ hne => Function.update_of_ne hne ..⟩

theorem scheduled_append {ps ps' ps'' : OutputStream → Pump} {ds more : List Delivery}
    (h : Scheduled ps ds ps') (h' : Scheduled ps' more ps'') : Scheduled ps (ds ++ more) ps'' := by
  induction h with
  | stop ps => exact h'
  | turn hs _ ih =>
    rw [List.append_assoc]
    exact .turn hs (ih h')

/-- Every order of the lines that remain is the order of some turns. -/
theorem scheduled_of_linesOf (ps : OutputStream → Pump) (ds : List Delivery)
    (h : ∀ stream, linesOf stream ds = (ps stream).remaining.lines) :
    ∃ ps', Scheduled ps ds ps' ∧ ∀ stream, ps' stream = .finished (ps stream).remaining.result := by
  induction ds generalizing ps with
  | nil =>
    obtain ⟨ps₁, h₁, ho, hk⟩ := scheduled_to_end .stdout (h .stdout).symm
    have he : (ps₁ .stderr).remaining.lines = [] := by
      rw [hk .stderr nofun]
      exact (h .stderr).symm
    obtain ⟨ps₂, h₂, he, hk'⟩ := scheduled_to_end .stderr he
    refine ⟨ps₂, scheduled_append h₁ h₂, ?_⟩
    intro stream
    cases stream with
    | stdout => rw [hk' .stdout nofun, ho]
    | stderr => rw [he, hk .stderr nofun]
  | cons d ds ih =>
    obtain ⟨stream, line⟩ := d
    have hl : (ps stream).remaining.lines = line :: linesOf stream ds := by
      rw [← h stream]
      simp [linesOf]
    cases hs : ps stream with
    | finished result =>
      rw [hs] at hl
      cases hl
    | reading s =>
      rw [hs] at hl
      obtain ⟨ht, hr⟩ := turn_of_lines hl
      have hu := remaining_of_update hs
      rw [ht] at hu
      have hn : ∀ other, linesOf other ds =
          (Function.update ps stream (Pump.turn s).2 other).remaining.lines := by
        intro other
        have := h other
        rw [hu other, linesOf_cons] at this
        exact List.append_cancel_left this
      obtain ⟨ps', h', ho⟩ := ih _ hn
      have hd := Scheduled.turn hs h'
      rw [ht] at hd
      refine ⟨ps', hd, ?_⟩
      intro other
      rw [ho other, hu other]

/-! ## Turns -/

theorem linesOf_inTurns (turns : List OutputStream) (outs errs : List String) :
    linesOf .stdout (inTurns turns outs errs) = outs ∧
      linesOf .stderr (inTurns turns outs errs) = errs := by
  fun_induction inTurns turns outs errs with
  | case1 turns out outs errs ih => exact ⟨congrArg (out :: ·) ih.1, ih.2⟩
  | case2 turns outs err errs ih => exact ⟨ih.1, congrArg (err :: ·) ih.2⟩
  | case3 turns outs errs _ _ _ ih => exact ih
  | case4 outs errs =>
    have ho := linesOf_other (show OutputStream.stderr ≠ .stdout from nofun) errs
    have he := linesOf_other (show OutputStream.stdout ≠ .stderr from nofun) outs
    rw [linesOf_append, linesOf_append, ho, he, linesOf_same, linesOf_same]
    exact ⟨rfl, List.append_nil errs⟩

/-- Lines in the turns of some deliveries are delivered as these were. -/
theorem inTurns_linesOf (ds : List Delivery) :
    inTurns (ds.map (·.1)) (linesOf .stdout ds) (linesOf .stderr ds) = ds := by
  induction ds with
  | nil => rfl
  | cons d ds ih =>
    obtain ⟨_ | _, line⟩ := d
    · exact congrArg ((.stdout, line) :: ·) ih
    · exact congrArg ((.stderr, line) :: ·) ih

namespace Child

/-- What is read from a stream, piece by piece. -/
def reads (c : Child) : OutputStream → List Fetch
  | .stdout => c.stdout
  | .stderr => c.stderr

/-- The lines that the pumps of a child deliver in some order of their turns, and how the pumps end.
-/
def MayDeliver (c : Child) (ds : List Delivery) (results : OutputStream → Except IoError Unit) :
    Prop :=
  Scheduled (fun stream => .reading { coming := c.reads stream }) ds fun stream =>
    .finished (results stream)

theorem linesOf_deliveries (c : Child) (stream : OutputStream) :
    linesOf stream c.deliveries = (pump (c.reads stream)).lines := by
  cases stream with
  | stdout => exact (linesOf_inTurns _ _ _).1
  | stderr => exact (linesOf_inTurns _ _ _).2

theorem deliveries_iff (c : Child) (ds : List Delivery) :
    (∃ turns, { c with turns := turns }.deliveries = ds) ↔
      ∀ stream, linesOf stream ds = (pump (c.reads stream)).lines := by
  constructor
  · rintro ⟨turns, rfl⟩ stream
    exact linesOf_deliveries { c with turns := turns } stream
  · intro h
    refine ⟨ds.map (·.1), ?_⟩
    have ho : linesOf .stdout ds = (pump c.stdout).lines := h .stdout
    have he : linesOf .stderr ds = (pump c.stderr).lines := h .stderr
    unfold deliveries
    rw [← ho, ← he]
    exact inTurns_linesOf ds

theorem mayDeliver_iff (c : Child) (ds : List Delivery)
    (results : OutputStream → Except IoError Unit) :
    c.MayDeliver ds results ↔ (∃ turns, { c with turns := turns }.deliveries = ds) ∧
      ∀ stream, results stream = (pump (c.reads stream)).result := by
  rw [deliveries_iff]
  constructor
  · intro h
    have hr := remaining_of_scheduled h
    constructor
    · intro stream
      have := congrArg Pumped.lines (hr stream)
      simpa [Pump.remaining, pump] using this.symm
    · intro stream
      exact (congrArg Pumped.result (hr stream)).symm
  · rintro ⟨hl, hr⟩
    obtain ⟨ps, h, ho⟩ :=
      scheduled_of_linesOf (fun stream => .reading { coming := c.reads stream }) ds hl
    have hp : ps = fun stream => .finished (results stream) := by
      funext stream
      rw [ho stream, hr stream]
      rfl
    rw [hp] at h
    exact h

/-! ## Verdicts -/

/-- What a handler answers about a child: a failure on standard output, else one on standard error,
else what the status says. -/
def judgement (c : Child) : Except HandlerError Unit :=
  match (pump c.stdout).result, (pump c.stderr).result with
  | .error e, _ => .error (.io e)
  | .ok (), .error e => .error (.io e)
  | .ok (), .ok () => if c.status.raw = 0 then .ok () else .error (.nonZeroExit c.status.code)

theorem outcome_bind (c : Child) : c.outcome.bind WaitStatus.verdict = c.judgement := by
  unfold outcome judgement
  rcases (pump c.stdout).result with e | _
  · rfl
  · rcases (pump c.stderr).result with e | _
    · rfl
    · rfl

end Child

theorem run_logOutcome (c : Child) :
    (logOutcome c).run =
      ⟨c.outcome.toOption.toList.map fun status => .logged (exited status), c.outcome⟩ := by
  unfold logOutcome
  rcases c.outcome with e | status
  · rfl
  · rfl

/-- The listener gets the lines and nothing else, and only log entries follow them. -/
theorem run_streaming (listener : Listener) (c : Child) :
    (streaming listener c).run =
      ⟨c.deliveries.flatMap (fun d => (listener d).effects) ++
        c.outcome.toOption.toList.map fun status => .logged (exited status), c.judgement⟩ := by
  rw [← c.outcome_bind]
  unfold streaming
  rw [Traced.run_liftM_bind, ExceptT.run_bind, run_logOutcome]
  rcases c.outcome with e | status
  · apply Traced.ext
    · simp [deliverAll]
    · simp [Except.bind]
  · rcases hv : status.verdict with e | _
    · apply Traced.ext
      · simp [deliverAll, hv]
      · simp [hv, Except.bind]
    · apply Traced.ext
      · simp [deliverAll, hv]
      · simp [hv, Except.bind]

/-! ## Captures -/

/-- Lines as a text, each of them followed by a line break. -/
def textOf (lines : List String) : String := String.join (lines.map (· ++ "\n"))

theorem push_eq (b : Buffers) (d : Delivery) :
    b.push d = ⟨b.stdout ++ textOf (linesOf .stdout [d]), b.stderr ++ textOf (linesOf .stderr [d])⟩
    := by
  obtain ⟨_ | _, line⟩ := d
  · simp [Buffers.push, textOf, linesOf, String.append_assoc]
  · simp [Buffers.push, textOf, linesOf, String.append_assoc]

/-- The buffers take up each stream's lines in their order, whatever comes between them. -/
theorem foldl_push (b : Buffers) (ds : List Delivery) :
    ds.foldl Buffers.push b =
      ⟨b.stdout ++ textOf (linesOf .stdout ds), b.stderr ++ textOf (linesOf .stderr ds)⟩ := by
  induction ds generalizing b with
  | nil => simp [textOf, linesOf]
  | cons d ds ih =>
    rw [List.foldl_cons, ih, push_eq, linesOf_cons .stdout d ds, linesOf_cons .stderr d ds]
    simp [textOf, String.append_assoc]

theorem run_capturing (timing : Timing) (slot : CaptureSlot) (c : Child) :
    (capturing timing slot c).value = (c.judgement, match c.outcome with
      | .error _ => slot
      | .ok status => some {
          stdout := textOf (linesOf .stdout c.deliveries)
          stderr := textOf (linesOf .stderr c.deliveries)
          exitCode := status.code
          durationMs := timing.durationMs
          startedAt := timing.startedAt
          completedAt := timing.completedAt }) := by
  rw [← c.outcome_bind]
  show slot.handle timing c = _
  unfold CaptureSlot.handle
  rw [foldl_push]
  rcases c.outcome with e | status
  · rfl
  · simp [Except.bind]

theorem outcome_of_read {c : Child} (ho : (pump c.stdout).result = .ok ())
    (he : (pump c.stderr).result = .ok ()) : c.outcome = .ok c.status := by
  unfold Child.outcome
  rw [ho, he]
  rfl

/-! ## The law -/

/-- The orders in which the turns of the two pumps may deliver their lines are those of some turns
of the child, and the pumps end alike in all of them. Whatever the turns are, each stream delivers
its own lines in their order, also when the other stream failed; a listener gets these and nothing
else; whether the lines are passed on or kept, the verdict is the same, and turns have no part in
it; and what is kept is the text of the lines of each stream. -/
theorem both_handlers_agree_under_every_schedule (c : Child) (listener : Listener)
    (timing : Timing) (slot : CaptureSlot) :
    (∀ ds results, c.MayDeliver ds results ↔
        (∃ turns, { c with turns := turns }.deliveries = ds) ∧
          ∀ stream, results stream = (pump (c.reads stream)).result) ∧
      (∀ stream, linesOf stream c.deliveries = (pump (c.reads stream)).lines) ∧
      (∃ entries : List Log.Entry, (streaming listener c).run.effects =
        c.deliveries.flatMap (fun d => (listener d).effects) ++ entries.map .logged) ∧
      (streaming listener c).run.value = c.judgement ∧
      (capturing timing slot c).value.1 = c.judgement ∧
      ((pump c.stdout).result = .ok () → (pump c.stderr).result = .ok () →
        (capturing timing slot c).value.2 = some {
          stdout := textOf (linesOf .stdout c.deliveries)
          stderr := textOf (linesOf .stderr c.deliveries)
          exitCode := c.status.code
          durationMs := timing.durationMs
          startedAt := timing.startedAt
          completedAt := timing.completedAt }) := by
  refine ⟨c.mayDeliver_iff, c.linesOf_deliveries, ?_, ?_, ?_, ?_⟩
  · refine ⟨c.outcome.toOption.toList.map exited, ?_⟩
    rw [run_streaming, List.map_map]
    rfl
  · rw [run_streaming]
  · rw [run_capturing]
  · intro ho he
    rw [run_capturing, outcome_of_read ho he]

/-- Standard error is interrupted and delivers between two lines of standard output, and the process
exits with 3. -/
theorem both_handlers_agree_on_an_interrupted_child :
    let c : Child := { stdout := [.bytes [0x61, 0x0A], .bytes [0x62]]
                       stderr := [.failed (.os 4), .bytes [0x77, 0x0D, 0x0A]]
                       status := ⟨768⟩
                       turns := [.stdout, .stderr] }
    let timing : Timing := ⟨.epoch, .epoch, 5⟩
    (pump c.stdout).result = .ok () ∧ (pump c.stderr).result = .ok () ∧
      c.deliveries = [(.stdout, "a"), (.stderr, "w"), (.stdout, "b")] ∧
      (streaming printingListener c).run.value = .error (.nonZeroExit (some 3)) ∧
      (capturing timing none c).value.1 = .error (.nonZeroExit (some 3)) ∧
      (capturing timing none c).value.2 = some ⟨"a\nb\n", "w\n", some 3, 5, .epoch, .epoch⟩ := by
  intro c timing
  have hpo : pump c.stdout = ⟨["a", "b"], .ok ()⟩ := (pump_eq _).trans (by rfl)
  have hpe : pump c.stderr = ⟨["w"], .ok ()⟩ := (pump_eq _).trans (by rfl)
  have ho : (pump c.stdout).result = .ok () := by rw [hpo]
  have he : (pump c.stderr).result = .ok () := by rw [hpe]
  have hd : c.deliveries = [(.stdout, "a"), (.stderr, "w"), (.stdout, "b")] := by
    unfold Child.deliveries
    rw [hpo, hpe]
    rfl
  have hx : c.status.code = some 3 := by decide
  have hj : c.judgement = .error (.nonZeroExit (some 3)) := by
    unfold Child.judgement
    rw [ho, he, hx]
    rfl
  obtain ⟨_, _, _, hs, hk, hc⟩ :=
    both_handlers_agree_under_every_schedule c printingListener timing none
  refine ⟨ho, he, hd, hs.trans hj, hk.trans hj, ?_⟩
  rw [hc ho he, hd, hx]
  decide

end AppVersions
