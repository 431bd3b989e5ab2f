-- The laws of readers: a repetition runs to its end when each of its steps takes a character, and a
-- run of characters is taken whole, up to the first character that does not belong to it.
import AppVersions.Text.Reader

namespace AppVersions.Reader

variable {ε α σ : Type}

/-- Where one reader sees no difference, nothing that follows it does. -/
theorem bind_congr_of_eq {β : Type} {r : Reader ε α} {cs cs' : List Char} (h : r cs = r cs')
    (f : α → Reader ε β) : (r >>= f) cs = (r >>= f) cs' := by
  simp only [bind, StateT.bind, h]

theorem bind_eq_ok_iff {β : Type} {r : Reader ε α} {f : α → Reader ε β} {cs rest : List Char}
    {b : β} : (r >>= f) cs = .ok (b, rest) ↔
      ∃ a mid, r cs = .ok (a, mid) ∧ f a mid = .ok (b, rest) := by
  rcases hr : r cs with e | ⟨a, mid⟩
  · rw [bind_error hr]
    exact ⟨nofun, nofun⟩
  · rw [bind_ok hr]
    refine ⟨fun h => ⟨a, mid, rfl, h⟩, ?_⟩
    rintro ⟨_, _, ⟨⟩, h⟩
    exact h

/-! ## Runs of characters -/

/-- Nothing that satisfies `p` stands in front. -/
def StopsAt (p : Char → Bool) (cs : List Char) : Prop := ∀ c ∈ cs.head?, p c = false

theorem stopsAt_nil (p : Char → Bool) : StopsAt p [] := nofun

theorem stopsAt_cons {p : Char → Bool} {c : Char} (h : p c = false) (cs : List Char) :
    StopsAt p (c :: cs) := by
  rintro d ⟨⟩
  exact h

theorem takeWhile_of_run {p : Char → Bool} {run rest : List Char} (h : ∀ c ∈ run, p c = true)
    (hr : StopsAt p rest) : (run ++ rest).takeWhile p = run := by
  rw [List.takeWhile_append_of_pos h]
  cases rest with
  | nil => exact List.append_nil run
  | cons c cs =>
    rw [List.takeWhile_cons_of_neg (by simp [hr c rfl]), List.append_nil]

theorem dropWhile_of_run {p : Char → Bool} {run rest : List Char} (h : ∀ c ∈ run, p c = true)
    (hr : StopsAt p rest) : (run ++ rest).dropWhile p = rest := by
  rw [List.dropWhile_append_of_pos h]
  cases rest with
  | nil => rfl
  | cons c cs => exact List.dropWhile_cons_of_neg (by simp [hr c rfl])

theorem stopsAt_dropWhile (p : Char → Bool) (cs : List Char) : StopsAt p (cs.dropWhile p) := by
  intro c hc
  have hn := List.head?_dropWhile_not p cs
  rw [hc] at hn
  simpa using hn

theorem skipWhile_of_stop {p : Char → Bool} {cs : List Char} (h : StopsAt p cs) :
    (skipWhile p : Reader ε Unit) cs = .ok ((), cs) :=
  congrArg (fun rest => Except.ok ((), rest)) (dropWhile_of_run (List.forall_mem_nil _) h)

theorem takeWhile_apply_of_run {p : Char → Bool} {run rest : List Char}
    (h : ∀ c ∈ run, p c = true) (hr : StopsAt p rest) :
    (takeWhile p : Reader ε (List Char)) (run ++ rest) = .ok (run, rest) := by
  unfold takeWhile
  rw [takeWhile_of_run h hr, dropWhile_of_run h hr]

/-! ## Answers -/

/-- The reader answers what `x` holds and leaves `rest`, or fails as `x` does. -/
def Answers (r : Reader ε α) (cs : List Char) (x : Except ε α) (rest : List Char) : Prop :=
  r cs = x.map fun a => (a, rest)

theorem answers_bind {β : Type} {r : Reader ε α} {f : α → Reader ε β} {cs mid rest : List Char}
    {x : Except ε α} {g : α → Except ε β} (hr : Answers r cs x mid)
    (hf : ∀ a, x = .ok a → Answers (f a) mid (g a) rest) : Answers (r >>= f) cs (x >>= g) rest := by
  cases x with
  | error e => exact bind_error hr
  | ok a => exact (bind_ok hr).trans (hf a rfl)

theorem answers_map {β : Type} {r : Reader ε α} {cs rest : List Char} {x : Except ε α}
    (h : Answers r cs x rest) (f : α → β) :
    Answers (do return f (← r)) cs (x.map f) rest := by
  cases x with
  | error e => exact bind_error h
  | ok a => exact bind_ok h

/-! ## Repetition -/

/-- The steps of a repetition, up to the one that answers nothing or fails; every other one shortens
the text. -/
inductive Runs (step : σ → Reader ε (Option σ)) :
    σ → List Char → Except ε σ → List Char → Prop
  | done {s : σ} {cs rest : List Char} (h : step s cs = .ok (none, rest)) :
      Runs step s cs (.ok s) rest
  | fails {s : σ} {cs rest : List Char} {e : ε} (h : step s cs = .error e) :
      Runs step s cs (.error e) rest
  | more {s t : σ} {x : Except ε σ} {cs mid rest : List Char} (h : step s cs = .ok (some t, mid))
      (hl : mid.length < cs.length) (hr : Runs step t mid x rest) : Runs step s cs x rest

theorem loop_of_runs {step : σ → Reader ε (Option σ)} {s : σ} {x : Except ε σ}
    {cs rest : List Char} (h : Runs step s cs x rest) (e : ε) {n : Nat} (hn : cs.length < n) :
    Answers (loop e step n s) cs x rest := by
  unfold Answers
  induction h generalizing n with
  | done h =>
    obtain ⟨n, rfl⟩ := Nat.exists_eq_succ_of_ne_zero (Nat.ne_zero_of_lt hn)
    unfold loop
    rw [bind_ok h]
    rfl
  | fails h =>
    obtain ⟨n, rfl⟩ := Nat.exists_eq_succ_of_ne_zero (Nat.ne_zero_of_lt hn)
    exact bind_error h
  | more h hl _ ih =>
    obtain ⟨n, rfl⟩ := Nat.exists_eq_succ_of_ne_zero (Nat.ne_zero_of_lt hn)
    unfold loop
    rw [bind_ok h]
    exact ih (by omega)

theorem repeatStep_of_runs {step : σ → Reader ε (Option σ)} {s : σ} {x : Except ε σ}
    {cs rest : List Char} (h : Runs step s cs x rest) (e : ε) :
    Answers (repeatStep e step s) cs x rest :=
  loop_of_runs h e (Nat.lt_succ_self _)

/-- The items that are collected before `step` answers nothing. -/
inductive Collects (step : Bool → Reader ε (Option α)) :
    Bool → List Char → List α → List Char → Prop
  | done {first : Bool} {cs rest : List Char} (h : step first cs = .ok (none, rest)) :
      Collects step first cs [] rest
  | more {first : Bool} {a : α} {as : List α} {cs mid rest : List Char}
      (h : step first cs = .ok (some a, mid)) (hl : mid.length < cs.length)
      (hr : Collects step false mid as rest) : Collects step first cs (a :: as) rest

/-- The items that are collected before `step` answers nothing, or the fault that it has before
that. -/
inductive Gathers (step : Bool → Reader ε (Option α)) :
    Bool → List Char → Except ε (List α) → List Char → Prop
  | done {first : Bool} {cs rest : List Char} (h : step first cs = .ok (none, rest)) :
      Gathers step first cs (.ok []) rest
  | fails {first : Bool} {cs rest : List Char} {e : ε} (h : step first cs = .error e) :
      Gathers step first cs (.error e) rest
  | more {first : Bool} {a : α} {x : Except ε (List α)} {cs mid rest : List Char}
      (h : step first cs = .ok (some a, mid)) (hl : mid.length < cs.length)
      (hr : Gathers step false mid x rest) : Gathers step first cs (x.map (a :: ·)) rest

theorem gathers_of_collects {step : Bool → Reader ε (Option α)} {first : Bool} {as : List α}
    {cs rest : List Char} (h : Collects step first cs as rest) :
    Gathers step first cs (.ok as) rest := by
  induction h with
  | done h => exact .done h
  | more h hl _ ih => exact .more h hl ih

theorem collect_of_gathers {step : Bool → Reader ε (Option α)} {x : Except ε (List α)}
    {cs rest : List Char} (h : Gathers step true cs x rest) (e : ε) :
    Answers (collect e step) cs x rest := by
  let read (acc : List α) : Reader ε (Option (List α)) := do
    return (← step acc.isEmpty).map (· :: acc)
  -- what is collected is put in front of what is there, so it ends up reversed
  have hread : ∀ {first : Bool} {cs : List Char} {x : Except ε (List α)} {rest : List Char},
      Gathers step first cs x rest → ∀ acc : List α, acc.isEmpty = first →
        Runs read acc cs (x.map (·.reverse ++ acc)) rest := by
    intro first cs x rest h
    induction h with
    | done h =>
      rintro acc rfl
      exact .done (bind_ok h)
    | fails h =>
      rintro acc rfl
      exact .fails (bind_error h)
    | @more _ a x _ _ _ h hl _ ih =>
      rintro acc rfl
      have hx : (x.map (a :: ·)).map (·.reverse ++ acc) = x.map (·.reverse ++ (a :: acc)) := by
        cases x with
        | error e => rfl
        | ok as => exact congrArg Except.ok (by simp)
      refine .more (bind_ok h) hl ?_
      rw [hx]
      exact ih (a :: acc) rfl
  have hcollect := answers_map (repeatStep_of_runs (hread h [] rfl) e) List.reverse
  have hx : (x.map (·.reverse ++ [])).map List.reverse = x := by
    cases x with
    | error e => rfl
    | ok as => exact congrArg Except.ok (by simp)
  rwa [hx] at hcollect

theorem collect_of_collects {step : Bool → Reader ε (Option α)} {as : List α}
    {cs rest : List Char} (h : Collects step true cs as rest) (e : ε) :
    collect e step cs = .ok (as, rest) :=
  collect_of_gathers (gathers_of_collects h) e

end AppVersions.Reader
