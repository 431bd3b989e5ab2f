-- The laws of whole command lines: what an accepted line gives before its subcommand and after it,
-- and what becomes of the options that stand on both sides.
import AppVersions.CommandLine.Invocation
import AppVersions.Proofs.CommandLine.Level

namespace AppVersions.CommandLine

/-! ## Lines -/

/-- A command line: the options given before the subcommand, the subcommand, and the options and the
versions given after it. -/
def Line (args : List String) (before : List (Opt × String)) (c : Subcommand)
    (after : List (Opt × String)) (versions : List String) : Prop :=
  ∃ front back, args = front ++ c.name :: back ∧ Written .root none front before [] ∧
    Written c.scope none back after versions

theorem eq_name_of_ofName? {s : String} {c : Subcommand} (h : Subcommand.ofName? s = some c) :
    s = c.name := by
  have := List.find?_some h
  exact (beq_iff_eq.mp this).symm

theorem role_of_name (c : Subcommand) : role? .root c.name = none := by
  cases c <;> decide

/-- There is no place for versions before the subcommand. -/
theorem versions_of_root {w : Option Opt} {args versions : List String}
    {given : List (Opt × String)} (h : Written .root w args given versions) : versions = [] := by
  induction h with
  | nothing => rfl
  | options _ _ ih => exact ih
  | announced _ _ ih => exact ih
  | value _ _ ih => exact ih
  | version hs _ _ => cases selection_of_version hs
  | separator _ hv =>
    rcases hv with hv | hv
    · cases hv
    · exact hv

theorem awaitsValue_eq (l : Level) : l.awaitsValue = l.awaited?.isSome := by
  obtain ⟨given, versions, _ | ⟨o, _ | value⟩, trailing⟩ := l <;> rfl

/-! ## Reading -/

theorem readAfter_ok {c : Subcommand} {args : List String} {l : Level}
    (h : readAfter c args = .ok l) :
    Level.read c.scope args = .ok l ∧ (c.scope = .selection → l.versions ≠ []) := by
  obtain ⟨m, hm, h⟩ := bind_eq_ok_iff.mp h
  dsimp only at h
  split at h
  · cases h
  · rename_i hn
    cases h
    exact ⟨hm, fun hs hv => hn ⟨hs, hv⟩⟩

/-- The first argument either belongs to the level before the subcommand, or is the subcommand. -/
theorem readFrom_cons {l : Level} {s : String} {args : List String} {p : Parts}
    (h : readFrom l (s :: args) = .ok p) :
    (∃ m, l.next .root s = .ok m ∧ readFrom m args = .ok p) ∨
      l.trailing = false ∧ l.awaited? = none ∧ s = p.subcommand.name ∧
        readAfter p.subcommand args = .ok p.after ∧ l.settle = .ok p.before := by
  unfold readFrom at h
  split at h
  · exact .inl (bind_eq_ok_iff.mp h)
  · rename_i hl
    simp only [awaitsValue_eq, Bool.or_eq_true, not_or, Bool.not_eq_true] at hl
    split at h
    · cases h
    · split at h
      · rename_i c hc
        obtain ⟨after, ha, h⟩ := bind_eq_ok_iff.mp h
        obtain ⟨before, hb, h⟩ := bind_eq_ok_iff.mp h
        cases h
        exact .inr ⟨hl.1, by simpa using hl.2, eq_name_of_ofName? hc, ha, hb⟩
      · exact .inl (bind_eq_ok_iff.mp h)

theorem readFrom_nil (l : Level) (p : Parts) : readFrom l [] ≠ .ok p := by
  intro h
  unfold readFrom at h
  obtain ⟨m, hm, h⟩ := bind_eq_ok_iff.mp h
  split at h <;> cases h

/-- After two dashes alone there is no subcommand any more. -/
theorem readFrom_of_trailing {l : Level} (ht : l.trailing = true) (args : List String)
    (p : Parts) : readFrom l args ≠ .ok p := by
  intro h
  cases args with
  | nil => exact readFrom_nil l p h
  | cons s args =>
    rcases readFrom_cons h with ⟨m, hm, _⟩ | ⟨ht', _⟩
    · unfold Level.next at hm
      rw [if_pos ht] at hm
      cases (Level.positional_ok hm).1
    · rw [ht] at ht'
      cases ht'

theorem readFrom_written {l : Level} {args : List String} {p : Parts} (ht : l.trailing = false)
    (h : readFrom l args = .ok p) :
    ∃ before after given, args = before ++ p.subcommand.name :: after ∧
      Written .root l.awaited? before given [] ∧ p.before.given = l.heard ++ given ∧
      readAfter p.subcommand after = .ok p.after := by
  induction args generalizing l with
  | nil => exact absurd h (readFrom_nil l p)
  | cons s args ih =>
    rcases readFrom_cons h with ⟨m, hm, h⟩ | ⟨_, hw, rfl, ha, hb⟩
    · have hs := Level.next_stepped ht hm
      have ht' : m.trailing = false := by
        rw [← Bool.not_eq_true]
        intro hn
        exact readFrom_of_trailing hn args p h
      obtain ⟨before, after, given, rfl, hw, hg, ha⟩ := ih ht' h
      obtain ⟨given', versions, hw', hg', _⟩ := Level.written_of_stepped hs ht' hw
      cases versions_of_root hw'
      exact ⟨s :: before, after, given', rfl, hw', hg.trans hg', ha⟩
    · obtain ⟨_, hb⟩ := Level.settle_ok hb
      rw [hb, hw]
      exact ⟨[], args, [], rfl, .nothing, (List.append_nil _).symm, ha⟩

theorem readFrom_line {args : List String} {p : Parts} (h : readFrom {} args = .ok p) :
    Line args p.before.given p.subcommand p.after.given p.after.versions := by
  obtain ⟨front, back, given, he, hf, hg, ha⟩ := readFrom_written rfl h
  rw [hg]
  exact ⟨front, back, he, hf, Level.read_written (readAfter_ok ha).1⟩

/-- A line has one subcommand, and it shows by itself what is given on either side of it. -/
theorem line_unique {args versions versions' : List String}
    {before before' after after' : List (Opt × String)} {c c' : Subcommand}
    (h : Line args before c after versions) (h' : Line args before' c' after' versions') :
    before = before' ∧ c = c' ∧ after = after' ∧ versions = versions' := by
  obtain ⟨front, back, rfl, hf, hb⟩ := h
  obtain ⟨front', back', he, hf', hb'⟩ := h'
  have hn : ∀ (c : Subcommand) back, Ends .root (c.name :: back) := by
    intro c back s hs
    cases hs
    exact ⟨nofun, role_of_name c⟩
  obtain ⟨rfl, rfl, _⟩ := written_unique hf hf' (hn c back) (hn c' back') he
  obtain ⟨hc, rfl⟩ := List.cons.inj (List.append_cancel_left he)
  have hc : c = c' := by
    revert hc
    cases c <;> cases c' <;> decide
  subst hc
  obtain ⟨_, rfl, rfl⟩ := written_unique hb hb' (ends_nil _) (ends_nil _) rfl
  exact ⟨rfl, rfl, rfl, rfl⟩

theorem parse_ok {args : List String} {i : Invocation} (h : parse args = .ok i) :
    ∃ p, readFrom {} args = .ok p ∧ p.invocation = i := by
  unfold parse at h
  rcases hp : readFrom {} args with e | p
  · rw [hp] at h
    cases h
  · rw [hp] at h
    cases h
    exact ⟨p, rfl, rfl⟩

/-! ## Options on both sides -/

/-- The values of an option, in order. -/
def occurrences (given : List (Opt × String)) (o : Opt) : List String :=
  (given.filter (·.1 == o)).map (·.2)

theorem occurrences_append (given given' : List (Opt × String)) (o : Opt) :
    occurrences (given ++ given') o = occurrences given o ++ occurrences given' o := by
  unfold occurrences
  rw [List.filter_append, List.map_append]

/-- One level's values take the place of the other's. -/
theorem values_of_parts (p : Parts) (o : Opt) :
    p.values o = if occurrences p.after.given o = [] then occurrences p.before.given o
      else occurrences p.after.given o := by
  show (if (occurrences p.after.given o).isEmpty then occurrences p.before.given o
    else occurrences p.after.given o) = _
  simp only [List.isEmpty_iff]

theorem replaced_eq_append_iff {xs ys : List String} :
    (if ys = [] then xs else ys) = xs ++ ys ↔ xs = [] ∨ ys = [] := by
  by_cases hy : ys = []
  · simp [hy]
  · rw [if_neg hy]
    constructor
    · intro h
      exact .inl (List.self_eq_append_left.mp h)
    · rintro (rfl | h)
      · rfl
      · exact absurd h hy

/-- What was given after the subcommand takes the place of what was given before it: the flags files
are all that were given, and the verbosity counts all that were given, only if one side has none of
them, or if the later side alone counts to the end. -/
theorem options_after_the_subcommand_replace_those_before_it {args : List String} {i : Invocation}
    (h : parse args = .ok i) :
    (∃ before c after versions, Line args before c after versions) ∧
      ∀ before c after versions, Line args before c after versions →
        let files := occurrences before .flagsFile
        let files' := occurrences after .flagsFile
        let count := (occurrences before .verbose).length
        let count' := (occurrences after .verbose).length
        i.options.flagsFiles = (if files' = [] then files else files').map Path.mk ∧
        i.verbosity = min 255 (if count' = 0 then count else count') ∧
        (i.options.flagsFiles = (occurrences (before ++ after) .flagsFile).map Path.mk ↔
          files = [] ∨ files' = []) ∧
        (i.verbosity = min 255 (occurrences (before ++ after) .verbose).length ↔
          count = 0 ∨ count' = 0 ∨ 255 ≤ count') := by
  obtain ⟨p, hp, rfl⟩ := parse_ok h
  have hl := readFrom_line hp
  refine ⟨⟨_, _, _, _, hl⟩, ?_⟩
  intro before c after versions hl' files files' count count'
  obtain ⟨rfl, rfl, rfl, rfl⟩ := line_unique hl' hl
  have hf : p.invocation.options.flagsFiles =
      (if files' = [] then files else files').map Path.mk :=
    congrArg (List.map Path.mk) (values_of_parts p .flagsFile)
  have hv : p.invocation.verbosity = min 255 (if count' = 0 then count else count') := by
    show min 255 (p.values .verbose).length = _
    rw [values_of_parts, apply_ite List.length]
    simp only [List.eq_nil_iff_length_eq_zero]
    rfl
  refine ⟨hf, hv, ?_, ?_⟩
  · rw [hf, occurrences_append, List.map_inj_right fun _ _ => Path.mk.inj]
    exact replaced_eq_append_iff
  · rw [hv, occurrences_append, List.length_append]
    split <;> omega

/-- A line with a flags file and the letter on both sides. -/
def bothSides : List String :=
  ["--flags-file", "/a.yaml", "-v", "stop", "v1", "--flags-file", "/b.yaml", "-vv"]

theorem parse_bothSides : parse bothSides = .ok
    { operation := .stop { versions := ["v1"] }
      options := { flagsFiles := [⟨"/b.yaml"⟩] }
      verbosity := 2 } := by
  rfl

theorem line_bothSides : Line bothSides [(.flagsFile, "/a.yaml"), (.verbose, "")] .stop
    [(.flagsFile, "/b.yaml"), (.verbose, ""), (.verbose, "")] ["v1"] := by
  have hf : Written .root none ["-v"] ([(.verbose, "")] ++ []) [] := .options rfl .nothing
  have hb : Written .selection none ["-vv"] ([(.verbose, ""), (.verbose, "")] ++ []) [] :=
    .options rfl .nothing
  exact ⟨["--flags-file", "/a.yaml", "-v"], ["v1", "--flags-file", "/b.yaml", "-vv"], rfl,
    .announced rfl (.value rfl hf), .version rfl (.announced rfl (.value rfl hb))⟩

/-- On such a line the flags files and the letters before the subcommand are lost. -/
theorem both_sides_are_not_joined : ∃ i before c after versions,
    parse bothSides = .ok i ∧ Line bothSides before c after versions ∧
      i.options.flagsFiles ≠ (occurrences (before ++ after) .flagsFile).map Path.mk ∧
      i.verbosity ≠ min 255 (occurrences (before ++ after) .verbose).length :=
  ⟨_, _, _, _, _, parse_bothSides, line_bothSides, by decide, by decide⟩

theorem the_later_side_of_both_counts : ∃ i, parse bothSides = .ok i ∧
    i.options.flagsFiles = [⟨"/b.yaml"⟩] ∧ i.verbosity = 2 := by
  obtain ⟨hf, hv, _, _⟩ := (options_after_the_subcommand_replace_those_before_it
    parse_bothSides).2 _ _ _ _ line_bothSides
  exact ⟨_, parse_bothSides, hf, hv⟩

end AppVersions.CommandLine
