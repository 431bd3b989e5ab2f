-- Computations that leave a trace: what was asked of the collaborators, what was logged, what was
-- printed and which output was kept, in order.
import AppVersions.Capture
import AppVersions.Log
import AppVersions.OutputStream
import AppVersions.Request

namespace AppVersions

/-! ## Effects -/

/-- A question to a collaborator of the runner. A process is handled by the number of tokens that
its command has. -/
inductive Call
  | validate
  | gcloudPath
  | spawn (request : SpawnRequest)
  | handle (tokens : Nat)
  deriving DecidableEq, Repr

inductive Effect
  | asked (call : Call)
  | logged (entry : Log.Entry)
  | printed (stream : OutputStream) (text : String)
  | kept (capture : Capture)
  deriving DecidableEq

/-! ## Traces -/

/-- A value and the effects on the way to it. -/
@[ext]
structure Traced (α : Type) where
  effects : List Effect
  value : α

namespace Traced

instance : Monad Traced where
  pure a := ⟨[], a⟩
  bind x f := ⟨x.effects ++ (f x.value).effects, (f x.value).value⟩

@[simp]
theorem effects_pure {α : Type} (a : α) : (pure a : Traced α).effects = [] := rfl

@[simp]
theorem value_pure {α : Type} (a : α) : (pure a : Traced α).value = a := rfl

@[simp]
theorem effects_bind {α β : Type} (x : Traced α) (f : α → Traced β) :
    (x >>= f).effects = x.effects ++ (f x.value).effects := rfl

@[simp]
theorem value_bind {α β : Type} (x : Traced α) (f : α → Traced β) :
    (x >>= f).value = (f x.value).value := rfl

instance : LawfulMonad Traced :=
  LawfulMonad.mk' Traced (fun x => by cases x; simp [Functor.map])
    (fun a f => rfl) (fun x f g => by simp [bind, List.append_assoc])

@[simp]
theorem effects_map {α β : Type} (f : α → β) (x : Traced α) : (f <$> x).effects = x.effects :=
  List.append_nil x.effects

@[simp]
theorem value_map {α β : Type} (f : α → β) (x : Traced α) : (f <$> x).value = f x.value := rfl

/-- A single effect. -/
def leave (e : Effect) : Traced Unit := ⟨[e], ()⟩

def log (entry : Log.Entry) : Traced Unit := leave (.logged entry)

def print (stream : OutputStream) (text : String) : Traced Unit := leave (.printed stream text)

def keep (capture : Capture) : Traced Unit := leave (.kept capture)

@[simp]
theorem effects_leave (e : Effect) : (leave e).effects = [e] := rfl

@[simp]
theorem effects_log (entry : Log.Entry) : (log entry).effects = [.logged entry] := rfl

/-! ## Views -/

/-- What was asked, in order. -/
def calls {α : Type} (x : Traced α) : List Call :=
  x.effects.filterMap fun
    | .asked call => some call
    | _ => none

/-- What was logged, in order. -/
def entries {α : Type} (x : Traced α) : List Log.Entry :=
  x.effects.filterMap fun
    | .logged entry => some entry
    | _ => none

/-- The output that was kept last. -/
def kept? {α : Type} (x : Traced α) : Option Capture :=
  (x.effects.filterMap fun
    | .kept capture => some capture
    | _ => none).getLast?

/-- The value together with the output that was kept last. -/
def withKept {α : Type} (x : Traced α) : Traced (α × Option Capture) :=
  ⟨x.effects, (x.value, x.kept?)⟩

end Traced

/-- A computation that may fail, with the effects up to the failure. -/
abbrev Run (ε α : Type) := ExceptT ε Traced α

/-- What cannot fail goes on with its value. -/
@[simp]
theorem Traced.run_liftM_bind {ε α β : Type} (x : Traced α) (f : α → Run ε β) :
    ((liftM x : Run ε α) >>= f).run = x >>= fun a => (f a).run := by
  rw [ExceptT.run_bind]
  simp

end AppVersions
