-- The laws of the capture slot: over any sequence of handled processes and takes, a take gives what
-- the latest process wrote, and nothing that an earlier one did.
import AppVersions.Proofs.Children
import Mathlib.Data.List.Induction

namespace AppVersions

/-! ## Captures of children -/

/-- Bytes as lines: decoded, without the line breaks at their ends, and one line break after each.
-/
def linedText (bs : List UInt8) : String := textOf ((pieces bs none).map lineText)

/-- The text of the lines of a stream that was read to its end. -/
theorem textOf_pump {fs : List Fetch} (h : broken? fs = none) :
    textOf (pump fs).lines = linedText (arrived fs) := by
  rw [pump_eq]
  show textOf ((pieces (arrived fs) (broken? fs)).map lineText) = _
  rw [h]
  rfl

namespace Child

/-- No failure but interruptions kept a stream from being read to its end. -/
def isReadToEnd (c : Child) : Bool := (broken? c.stdout).isNone && (broken? c.stderr).isNone

theorem broken_of_isReadToEnd {c : Child} (h : c.isReadToEnd = true) :
    broken? c.stdout = none ∧ broken? c.stderr = none := by
  rw [isReadToEnd, Bool.and_eq_true] at h
  exact ⟨Option.isNone_iff_eq_none.mp h.1, Option.isNone_iff_eq_none.mp h.2⟩

theorem outcome_of_isReadToEnd {c : Child} (h : c.isReadToEnd = true) :
    c.outcome = .ok c.status := by
  obtain ⟨ho, he⟩ := broken_of_isReadToEnd h
  apply outcome_of_read
  · rw [pump_eq, ho]
    rfl
  · rw [pump_eq, he]
    rfl

theorem judgement_of_isReadToEnd {c : Child} (h : c.isReadToEnd = true) :
    c.judgement = if c.status.raw = 0 then .ok () else .error (.nonZeroExit c.status.code) := by
  rw [← c.outcome_bind, outcome_of_isReadToEnd h]
  rfl

/-- The failure that counts is the one on standard output, if there is one. -/
theorem outcome_of_broken {c : Child} (h : c.isReadToEnd = false) :
    ∃ e, (broken? c.stdout).or (broken? c.stderr) = some e ∧ c.outcome = .error (.io e) := by
  unfold isReadToEnd at h
  unfold outcome
  rw [pump_eq, pump_eq]
  rcases hb : broken? c.stdout with _ | e
  · rcases hb' : broken? c.stderr with _ | e
    · rw [hb, hb'] at h
      cases h
    · exact ⟨e, rfl, rfl⟩
  · exact ⟨e, rfl, rfl⟩

end Child

/-! ## Handled processes -/

/-- A process, and when it was handled. -/
structure Handling where
  timing : Timing
  child : Child

namespace Handling

def isComplete (h : Handling) : Bool := h.child.isReadToEnd

/-- All that the process wrote on both streams, and how it ended. -/
def capture (h : Handling) : Capture where
  stdout := linedText (arrived h.child.stdout)
  stderr := linedText (arrived h.child.stderr)
  exitCode := h.child.status.code
  durationMs := h.timing.durationMs
  startedAt := h.timing.startedAt
  completedAt := h.timing.completedAt

/-- A process that was read to its end fills the slot, and any other leaves it as it was. -/
theorem capturing_value (slot : CaptureSlot) (h : Handling) :
    (capturing h.timing slot h.child).value =
      (h.child.judgement, if h.isComplete then some h.capture else slot) := by
  rw [run_capturing]
  cases hr : h.isComplete with
  | true =>
    obtain ⟨ho, he⟩ := Child.broken_of_isReadToEnd hr
    rw [Child.outcome_of_isReadToEnd hr, Child.linesOf_deliveries, Child.linesOf_deliveries,
      Child.reads, Child.reads, textOf_pump ho, textOf_pump he]
    rfl
  | false =>
    obtain ⟨e, _, ho⟩ := Child.outcome_of_broken hr
    rw [ho]
    rfl

end Handling

/-! ## Uses of a slot -/

/-- What is done with a slot: a process is handled, or the capture is taken. -/
inductive SlotUse
  | handle (h : Handling)
  | take

/-- The verdict on a process, or the capture that was taken, if there was one. -/
inductive SlotAnswer
  | verdict (v : Except HandlerError Unit)
  | taken (capture : Option Capture)

namespace CaptureSlot

/-- The answer to one use, and the slot afterwards. -/
def use (slot : CaptureSlot) : SlotUse → SlotAnswer × CaptureSlot
  | .handle h =>
    let (v, slot) := (capturing h.timing slot h.child).value
    (.verdict v, slot)
  | .take =>
    let (capture, slot) := slot.take
    (.taken capture, slot)

/-- The answers to uses one after the other. -/
def answers : CaptureSlot → List SlotUse → List SlotAnswer
  | _, [] => []
  | slot, u :: us => (slot.use u).1 :: answers (slot.use u).2 us

/-- The slot after some uses. -/
def after (slot : CaptureSlot) (us : List SlotUse) : CaptureSlot :=
  us.foldl (fun slot u => (slot.use u).2) slot

theorem after_append (slot : CaptureSlot) (us : List SlotUse) (u : SlotUse) :
    slot.after (us ++ [u]) = ((slot.after us).use u).2 := by
  rw [after, List.foldl_append]
  rfl

theorem use_handle (slot : CaptureSlot) (h : Handling) :
    slot.use (.handle h) =
      (.verdict h.child.judgement, if h.isComplete then some h.capture else slot) := by
  unfold use
  simp only [h.capturing_value]

theorem length_answers (slot : CaptureSlot) (us : List SlotUse) :
    (slot.answers us).length = us.length := by
  induction us generalizing slot with
  | nil => rfl
  | cons u us ih => exact congrArg (· + 1) (ih (slot.use u).2)

/-- Each use is answered as it would be alone, with the slot that the uses before it left. -/
theorem getElem?_answers {slot : CaptureSlot} {us : List SlotUse} {i : Nat} {u : SlotUse}
    (h : us[i]? = some u) :
    (slot.answers us)[i]? = some ((slot.after (us.take i)).use u).1 := by
  induction us generalizing slot i with
  | nil => simp at h
  | cons first us ih =>
    cases i with
    | zero =>
      simp only [List.getElem?_cons_zero, Option.some.injEq] at h
      subst h
      rfl
    | succ i =>
      simp only [List.getElem?_cons_succ] at h
      simpa [answers, after] using ih h

end CaptureSlot

/-! ## What a slot holds -/

/-- What was handled since the last take, the latest first, where the uses stand with the latest
first. -/
def sinceTake : List SlotUse → List Handling
  | .handle h :: us => h :: sinceTake us
  | .take :: _ | [] => []

/-- What was handled last since the last take. -/
def latest? (us : List SlotUse) : Option Handling := (sinceTake us.reverse).head?

theorem latest_append_handle (us : List SlotUse) (h : Handling) :
    latest? (us ++ [.handle h]) = some h := by
  rw [latest?, List.reverse_append]
  rfl

theorem latest_append_take (us : List SlotUse) : latest? (us ++ [.take]) = none := by
  rw [latest?, List.reverse_append]
  rfl

theorem handle_mem_of_mem_sinceTake {us : List SlotUse} {h : Handling} (hm : h ∈ sinceTake us) :
    .handle h ∈ us := by
  induction us with
  | nil => cases hm
  | cons u us ih =>
    cases u with
    | take => cases hm
    | handle first =>
      rcases List.mem_cons.mp hm with rfl | hm
      · exact List.mem_cons_self
      · exact List.mem_cons_of_mem _ (ih hm)

namespace CaptureSlot

/-- A slot holds the capture of the latest process since the last take that was read to its end. -/
theorem after_eq (us : List SlotUse) :
    after none us = ((sinceTake us.reverse).find? Handling.isComplete).map Handling.capture := by
  induction us using List.reverseRecOn with
  | nil => rfl
  | append_singleton us u ih =>
    rw [after_append, ih, List.reverse_append]
    cases u with
    | take => rfl
    | handle h =>
      rw [use_handle]
      show _ = ((h :: sinceTake us.reverse).find? _).map _
      cases hr : h.isComplete with
      | true =>
        rw [List.find?_cons_of_pos hr]
        rfl
      | false =>
        rw [List.find?_cons_of_neg (by simp [hr])]
        rfl

/-- Where every process was read to its end, the slot holds the capture of the latest. -/
theorem after_of_isComplete {us : List SlotUse} (hr : ∀ h, .handle h ∈ us → h.isComplete = true) :
    after none us = (latest? us).map Handling.capture := by
  have hr : ∀ h ∈ sinceTake us.reverse, h.isComplete = true := by
    intro h hm
    exact hr h (List.mem_reverse.mp (handle_mem_of_mem_sinceTake hm))
  rw [after_eq, latest?]
  cases hs : sinceTake us.reverse with
  | nil => rfl
  | cons h hs' =>
    rw [hs] at hr
    rw [List.find?_cons_of_pos (hr h List.mem_cons_self)]
    rfl

/-! ## The law -/

/-- Over any sequence of uses of a slot, in which every process is read to its end, a take gives the
capture of the latest process that was handled since the take before it, and nothing if there was
none. The verdict on a process is by its status alone, and goes with the exit code that is in the
slot afterwards. -/
theorem a_take_gives_the_capture_of_the_latest_process (us : List SlotUse)
    (hr : ∀ h, .handle h ∈ us → h.isComplete = true) :
    (answers none us).length = us.length ∧
      (∀ i : Nat, us[i]? = some .take →
        (answers none us)[i]? = some (.taken ((latest? (us.take i)).map Handling.capture))) ∧
      (∀ i : Nat, us[i]? = some .take → us[i + 1]? = some .take →
        (answers none us)[i + 1]? = some (.taken none)) ∧
      ∀ (i : Nat) h, us[i]? = some (.handle h) → ∃ v,
        (answers none us)[i]? = some (.verdict v) ∧
          after none (us.take (i + 1)) = some h.capture ∧
          (v = .ok () ∧ h.child.status.raw = 0 ∧ h.capture.exitCode = some 0 ∨
            v = .error (.nonZeroExit h.capture.exitCode) ∧ h.child.status.raw ≠ 0) := by
  have hs : ∀ i, after none (us.take i) = (latest? (us.take i)).map Handling.capture := by
    intro i
    apply after_of_isComplete
    intro h hm
    exact hr h (List.mem_of_mem_take hm)
  have ht : ∀ (i : Nat) u, us[i]? = some u → us.take (i + 1) = us.take i ++ [u] := by
    intro i u hu
    rw [List.take_add_one, hu]
    rfl
  have hgives : ∀ i : Nat, us[i]? = some .take →
      (answers none us)[i]? = some (.taken ((latest? (us.take i)).map Handling.capture)) := by
    intro i hu
    rw [getElem?_answers hu, hs]
    rfl
  refine ⟨length_answers none us, hgives, ?_, ?_⟩
  · intro i hu hnext
    rw [hgives (i + 1) hnext, ht i .take hu, latest_append_take]
    rfl
  · intro i h hu
    refine ⟨h.child.judgement, ?_, ?_, ?_⟩
    · rw [getElem?_answers hu, use_handle]
    · rw [hs, ht i _ hu, latest_append_handle]
      rfl
    · have hc : h.child.isReadToEnd = true := hr h (List.mem_of_getElem? hu)
      rw [Child.judgement_of_isReadToEnd hc]
      by_cases h0 : h.child.status.raw = 0
      · left
        refine ⟨if_pos h0, h0, ?_⟩
        show h.child.status.code = some 0
        rw [WaitStatus.code, h0]
        rfl
      · exact .inr ⟨if_neg h0, h0⟩

/-- The second process is killed while its lines come in pieces. It alone is captured, once. -/
theorem the_capture_of_a_killed_process_is_taken_once :
    let old : Handling := ⟨⟨.epoch, .epoch, 1⟩,
      { stdout := [.bytes [0x6F, 0x6C, 0x64, 0x0A]], stderr := [], status := ⟨0⟩ }⟩
    let killed : Handling := ⟨⟨.epoch, .epoch, 7⟩,
      { stdout := [.bytes [0x61, 0x0D], .failed (.os 4), .bytes [0x0A, 0x62]]
        stderr := [.bytes [0x77]]
        status := ⟨9⟩
        turns := [.stderr] }⟩
    let us : List SlotUse := [.handle old, .handle killed, .take, .take]
    (∀ h, .handle h ∈ us → h.isComplete = true) ∧
      (answers none us)[2]? = some (.taken (some ⟨"a\nb\n", "w\n", none, 7, .epoch, .epoch⟩)) ∧
      (answers none us)[3]? = some (.taken none) ∧
      (answers none us)[1]? = some (.verdict (.error (.nonZeroExit none))) := by
  intro old killed us
  have hr : ∀ h, .handle h ∈ us → h.isComplete = true := by
    intro h hm
    simp only [us, List.mem_cons, SlotUse.handle.injEq, reduceCtorEq, List.not_mem_nil,
      or_false] at hm
    rcases hm with rfl | rfl
    · rfl
    · rfl
  obtain ⟨_, ht, hnone, hv⟩ := a_take_gives_the_capture_of_the_latest_process us hr
  refine ⟨hr, (ht 2 rfl).trans ?_, hnone 2 rfl rfl, ?_⟩
  · have hc : killed.capture = ⟨"a\nb\n", "w\n", none, 7, .epoch, .epoch⟩ := by decide
    rw [← hc]
    rfl
  · obtain ⟨v, hv, -, ⟨-, h0, -⟩ | ⟨rfl, -⟩⟩ := hv 1 killed rfl
    · cases h0
    · exact hv

end CaptureSlot

/-! ## Processes that break off -/

/-- All that was handled, in order, whatever was taken in between. -/
def handlings (us : List SlotUse) : List Handling :=
  us.filterMap fun
    | .handle h => some h
    | .take => none

theorem handlings_map_handle (hs : List Handling) : handlings (hs.map .handle) = hs := by
  rw [handlings, List.filterMap_map]
  exact List.filterMap_some

theorem sinceTake_map_handle_append (hs : List Handling) (us : List SlotUse) :
    sinceTake (hs.map .handle ++ us) = hs ++ sinceTake us := by
  induction hs with
  | nil => rfl
  | cons h hs ih => exact congrArg (h :: ·) ih

theorem of_sinceTake_eq_append {us : List SlotUse} {hs more : List Handling}
    (h : sinceTake us = hs ++ more) :
    ∃ rest, us = hs.map .handle ++ rest ∧ sinceTake rest = more := by
  induction hs generalizing us with
  | nil => exact ⟨us, rfl, h⟩
  | cons g hs ih =>
    rcases us with _ | ⟨_ | _, us⟩
    · cases h
    · obtain ⟨rfl, htail⟩ := List.cons.inj h
      obtain ⟨rest, rfl, hr⟩ := ih htail
      exact ⟨rest, rfl, hr⟩
    · cases h

/-- The process `h` was read to its end, and all that was done after it was to handle the processes
`broken`, which were not. -/
structure LatestMade (us : List SlotUse) (h : Handling) (broken : List Handling) : Prop where
  uses : ∃ before, us = before ++ .handle h :: broken.map .handle
  made : h.isComplete = true
  broke_off : ∀ g ∈ broken, g.isComplete = false

theorem getLast?_handlings_of_latestMade {us : List SlotUse} {h : Handling} {broken : List Handling}
    (hm : LatestMade us h broken) : (handlings us).getLast? = some h ↔ broken = [] := by
  obtain ⟨⟨before, rfl⟩, hc, hb⟩ := hm
  have hs : handlings (before ++ .handle h :: broken.map .handle) =
      handlings before ++ h :: broken := by
    rw [handlings, List.filterMap_append]
    exact congrArg (handlings before ++ h :: ·) (handlings_map_handle broken)
  rw [hs]
  rcases List.eq_nil_or_concat' broken with rfl | ⟨front, last, rfl⟩
  · simp
  · have hl : last.isComplete = false := hb last (by simp)
    have hne : last ≠ h := by
      rintro rfl
      rw [hc] at hl
      cases hl
    rw [← List.cons_append, ← List.append_assoc, List.getLast?_concat]
    simp [hne]

namespace CaptureSlot

theorem after_eq_some_iff (us : List SlotUse) (capture : Capture) :
    after none us = some capture ↔ ∃ h broken, LatestMade us h broken ∧ h.capture = capture := by
  rw [after_eq, Option.map_eq_some_iff]
  constructor
  · rintro ⟨h, hf, rfl⟩
    -- Backwards from the end: what broke off, the process that was found, and what came before it.
    obtain ⟨hc, broken, older, hs, hb⟩ := List.find?_eq_some_iff_append.mp hf
    obtain ⟨rest, hr, ho : sinceTake rest = [h] ++ older⟩ := of_sinceTake_eq_append hs
    obtain ⟨before, rfl, -⟩ := of_sinceTake_eq_append ho
    refine ⟨h, broken.reverse, ⟨⟨before.reverse, ?_⟩, hc, ?_⟩, rfl⟩
    · rw [← List.reverse_reverse us, hr]
      simp
    · intro g hg
      simpa using hb g (List.mem_reverse.mp hg)
  · rintro ⟨h, broken, ⟨⟨before, rfl⟩, hc, hb⟩, rfl⟩
    refine ⟨h, ?_, rfl⟩
    rw [List.find?_eq_some_iff_append]
    refine ⟨hc, broken.reverse, sinceTake before.reverse, ?_, ?_⟩
    · rw [List.reverse_append, List.reverse_cons, ← List.map_reverse, List.append_assoc,
        sinceTake_map_handle_append]
      rfl
    · intro g hg
      simp [hb g (List.mem_reverse.mp hg)]

/-- A take gives the capture of the latest process since the take before it that was read to its
end, and nothing if there was none. It is the capture of the most recent process exactly if no
process broke off after that one: a process that breaks off leaves an older capture in its place. -/
theorem a_take_gives_the_latest_capture_made (us : List SlotUse) (i : Nat)
    (hu : us[i]? = some .take) :
    ∃ taken, (answers none us)[i]? = some (.taken taken) ∧
      (taken.isSome ↔ ∃ h broken, LatestMade (us.take i) h broken) ∧
      ∀ h broken, LatestMade (us.take i) h broken → taken = some h.capture ∧
        ((handlings (us.take i)).getLast? = some h ↔ broken = []) := by
  refine ⟨after none (us.take i), getElem?_answers hu, ?_, ?_⟩
  · rw [Option.isSome_iff_exists]
    constructor
    · rintro ⟨capture, ht⟩
      obtain ⟨h, broken, hm, -⟩ := (after_eq_some_iff _ _).mp ht
      exact ⟨h, broken, hm⟩
    · rintro ⟨h, broken, hm⟩
      exact ⟨h.capture, (after_eq_some_iff _ _).mpr ⟨h, broken, hm, rfl⟩⟩
  · intro h broken hm
    exact ⟨(after_eq_some_iff _ _).mpr ⟨h, broken, hm, rfl⟩, getLast?_handlings_of_latestMade hm⟩

/-- A process is read to its end, and the next one breaks off after its first line. What is taken
then is the capture of the first. -/
theorem the_capture_before_a_broken_process_is_taken :
    let old : Handling := ⟨⟨.epoch, .epoch, 1⟩,
      { stdout := [.bytes [0x6F, 0x6C, 0x64, 0x0A]], stderr := [], status := ⟨0⟩ }⟩
    let broken : Handling := ⟨⟨.epoch, .epoch, 2⟩,
      { stdout := [.bytes [0x6E, 0x0A], .failed (.os 5)], stderr := [], status := ⟨0⟩ }⟩
    let us : List SlotUse := [.handle old, .handle broken, .take]
    us[2]? = some .take ∧ LatestMade (us.take 2) old [broken] ∧
      (answers none us)[2]? = some (.taken (some ⟨"old\n", "", some 0, 1, .epoch, .epoch⟩)) ∧
      (handlings (us.take 2)).getLast? ≠ some old := by
  intro old broken us
  have hb : ∀ g ∈ [broken], g.isComplete = false := by
    intro g hg
    rw [List.mem_singleton.mp hg]
    rfl
  have hm : LatestMade (us.take 2) old [broken] := ⟨⟨[], rfl⟩, rfl, hb⟩
  have hc : old.capture = ⟨"old\n", "", some 0, 1, .epoch, .epoch⟩ := by decide
  obtain ⟨taken, ht, -, hlatest⟩ := a_take_gives_the_latest_capture_made us 2 rfl
  obtain ⟨rfl, hlast⟩ := hlatest old [broken] hm
  refine ⟨rfl, hm, ?_, ?_⟩
  · rw [ht, hc]
  · rw [ne_eq, hlast]
    exact List.cons_ne_nil broken []

/-- So a take may give neither nothing nor the capture of the most recent process. -/
theorem a_capture_may_outlive_a_process_that_broke_off :
    ¬∀ (us : List SlotUse) (i : Nat) (h : Handling), us[i]? = some .take →
      (handlings (us.take i)).getLast? = some h →
        (answers none us)[i]? = some (.taken none) ∨
          (answers none us)[i]? = some (.taken (some h.capture)) := by
  intro hall
  let old : Handling := ⟨⟨.epoch, .epoch, 1⟩,
    { stdout := [.bytes [0x6F, 0x6C, 0x64, 0x0A]], stderr := [], status := ⟨0⟩ }⟩
  let broken : Handling := ⟨⟨.epoch, .epoch, 1⟩,
    { stdout := [.failed (.os 5)], stderr := [], status := ⟨0⟩ }⟩
  let us : List SlotUse := [.handle old, .handle broken, .take]
  have hs : after none (us.take 2) = some old.capture := by
    rw [after_eq]
    rfl
  have ha : (answers none us)[2]? = some (.taken (some old.capture)) := by
    rw [getElem?_answers (u := .take) rfl, hs]
    rfl
  have hne : old.capture ≠ broken.capture := by decide
  rcases hall us 2 broken rfl rfl with h | h
  · rw [ha] at h
    cases h
  · rw [ha] at h
    exact hne (Option.some.inj (SlotAnswer.taken.inj (Option.some.inj h)))

end CaptureSlot

end AppVersions
