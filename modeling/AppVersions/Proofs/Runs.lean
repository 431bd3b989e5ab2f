-- The laws of runs: which collaborators a run asks and in what order, and what it answers when one
-- of them fails.
import AppVersions.Session

namespace AppVersions

/-! ## One run

The backend is any backend here: its answers may depend on the request and on the process, and it
may leave effects of its own. -/

namespace Runner

variable {P : Type} {r : Runner P} {arguments : List String} {directory : Option Path}

/-- An SDK that is not valid ends the run before gcloud is looked for. -/
theorem run_of_invalid_sdk {e : SdkError} (hv : r.backend.validate.run.value = .error e) :
    (r.run arguments directory).run =
      ⟨r.backend.validate.run.effects ++ [.logged (r.rejected e)], .error (.sdk e)⟩ := by
  unfold run
  rw [Traced.run_liftM_bind]
  apply Traced.ext
  · simp [hv]
  · simp [hv]

/-- A request that cannot be launched was submitted, but nothing is handled. -/
theorem run_of_failed_spawn {request : SpawnRequest} {e : IoError}
    (hr : request = r.request r.backend.gcloudPath.value arguments directory)
    (hv : r.backend.validate.run.value = .ok ())
    (hs : (r.backend.spawn request).run.value = .error e) :
    (r.run arguments directory).run =
      ⟨r.backend.validate.run.effects ++ (r.backend.gcloudPath.effects ++
        .logged (r.submitting request) :: (r.backend.spawn request).run.effects),
        .error (.io e)⟩ := by
  subst hr
  unfold run
  rw [Traced.run_liftM_bind]
  apply Traced.ext
  · simp [hv, hs]
  · simp [hv, hs]

/-- The process that was spawned, and no other, goes to the handler, whose verdict is the result. -/
theorem run_of_spawned {request : SpawnRequest} {process : P}
    (hr : request = r.request r.backend.gcloudPath.value arguments directory)
    (hv : r.backend.validate.run.value = .ok ())
    (hs : (r.backend.spawn request).run.value = .ok process) :
    (r.run arguments directory).run =
      ⟨r.backend.validate.run.effects ++ (r.backend.gcloudPath.effects ++
        .logged (r.submitting request) :: ((r.backend.spawn request).run.effects ++
        ((r.backend.handle process).run.effects ++
          match (r.backend.handle process).run.value with
          | .ok () => [.logged r.completed]
          | .error _ => []))),
        (r.backend.handle process).run.value.mapError .handler⟩ := by
  subst hr
  unfold run
  rw [Traced.run_liftM_bind]
  rcases hh : (r.backend.handle process).run.value with e | _
  · apply Traced.ext
    · simp [hv, hs, hh]
    · simp [hv, hs, hh]
      rfl
  · apply Traced.ext
    · simp [hv, hs, hh]
    · simp [hv, hs, hh]
      rfl

/-- An operation with good arguments says so and runs where we run. -/
theorem operate_of_arguments {op : Operation} (h : op.arguments = .ok arguments) :
    (r.operate op).run =
      ⟨.logged (operating arguments) :: (r.run arguments none).run.effects,
        (r.run arguments none).run.value⟩ := by
  unfold operate
  rw [h]
  simp only [Traced.run_liftM_bind]
  rfl

theorem operate_of_no_arguments {op : Operation} {e : AppError} (h : op.arguments = .error e) :
    (r.operate op).run = ⟨[], .error e⟩ := by
  unfold operate
  rw [h]
  rfl

end Runner

end AppVersions
