-- The law of selections: a command line that starts, stops or deletes versions is accepted only if it
-- names some, so no run of the program ends for want of them.
import AppVersions.Main
import AppVersions.Proofs.CommandLine.Words
import AppVersions.Proofs.Programs

namespace AppVersions

open CommandLine (AsksForHelp NamesNoVersion Subcommand firstWord? refused_of_namesNoVersion words
  words_of_parse)

namespace Program

/-- With the arguments of gcloud at hand, no run ends for a configuration that is not valid. -/
theorem run_ne_invalidConfiguration {i : CommandLine.Invocation}
    (ha : i.operation.arguments =
      .ok (["app", "versions", i.operation.name] ++ i.operation.versions ++ i.operation.flags))
    (host : Host) (reason : String) :
    (run host i).run.value ≠ .error (.app (.invalidConfiguration reason)) := by
  obtain ⟨request, child, failure, hc⟩ := exists_course host i
  have hv : (run host i).run.value = verdictOf failure :=
    congrArg Traced.value (unlogged_of_course ha hc)
  rw [hv]
  cases hc <;> exact nofun

end Program

/-- The refusal is all that comes of arguments that are refused. -/
theorem Main.execute_of_refused {args : List String} {refusal : CommandLine.Refusal}
    (h : CommandLine.parse args = .error refusal) : execute args = refuse refusal := by
  unfold execute
  rw [h]

/-- An accepted start, stop or deletion is of the words after its subcommand, one at least. -/
theorem words_of_selection {args : List String} {i : CommandLine.Invocation}
    (h : CommandLine.parse args = .ok i) (hl : i.operation.isListing = false) :
    i.operation.versions ≠ [] ∧ ∃ (c : Subcommand) (back : List String),
      firstWord? false args = some (c.name, back) ∧
        i.operation.versions = words .selection false back := by
  obtain ⟨c, back, hf, hname, hv⟩ := words_of_parse h
  have hc : c.scope = .selection := by
    revert hname hl
    cases i.operation <;> cases c <;> simp [Operation.isListing, Operation.name, Subcommand.name,
      Subcommand.scope]
  obtain ⟨hwords, hne⟩ := hv hc
  exact ⟨hne, c, back, hf, hwords.symm⟩

/-- Whatever the arguments are, what is accepted names versions, the words after its subcommand,
unless it is a listing; then gcloud has its arguments, and no run of the program fails for an invalid
configuration, whatever the surroundings do. Arguments that name no version after a subcommand that
needs some are refused, alike in all surroundings. They are refused as a mistake, unless one of them
asks for help. -/
theorem a_selection_without_versions_is_never_carried_out (args : List String) :
    (∀ i, CommandLine.parse args = .ok i →
      (i.operation.isListing = false → i.operation.versions ≠ [] ∧
        ∃ (c : Subcommand) (back : List String), firstWord? false args = some (c.name, back) ∧
          i.operation.versions = words .selection false back) ∧
      (∃ arguments, i.operation.arguments = .ok arguments) ∧
      ∀ host reason,
        (Program.run host i).run.value ≠ .error (.app (.invalidConfiguration reason))) ∧
    (NamesNoVersion args → ∃ refusal, CommandLine.parse args = .error refusal ∧
      (refusal.exitCode = 2 ∨ refusal = .help ∧ ∃ s ∈ args, AsksForHelp s) ∧
      ∀ host setting stamp, Program.ofArguments host setting stamp args = .error refusal) := by
  constructor
  · intro i hp
    have ha := arguments_of_versions (Program.versions_of_parse hp)
    exact ⟨words_of_selection hp, ⟨_, ha⟩, Program.run_ne_invalidConfiguration ha⟩
  · intro hn
    obtain ⟨refusal, hp, hr⟩ := refused_of_namesNoVersion hn
    refine ⟨refusal, hp, hr, ?_⟩
    intro host setting stamp
    unfold Program.ofArguments
    rw [hp]
    rfl

/-- The service takes the only word that could be a version, and the two dashes at the end are none.
-/
theorem a_version_taken_for_a_service_is_missed :
    let args := ["-v", "--format", "stop", "delete", "--service", "v1", "--"]
    NamesNoVersion args ∧
      ∀ host setting stamp, Program.ofArguments host setting stamp args = .error .missingVersions := by
  intro args
  have hn : NamesNoVersion args := ⟨.delete, ["--service", "v1", "--"], rfl, by decide, by decide⟩
  have hp : CommandLine.parse args = .error .missingVersions := by decide
  obtain ⟨refusal, hr, _, hof⟩ := (a_selection_without_versions_is_never_carried_out args).2 hn
  cases hp.symm.trans hr
  exact ⟨hn, hof⟩

/-- Not all arguments without a version are refused as a mistake: help is given where it is asked
for. -/
theorem help_for_a_subcommand_is_given_without_versions :
    ¬∀ args, NamesNoVersion args →
      ∃ refusal, CommandLine.parse args = .error refusal ∧ refusal.exitCode = 2 := by
  intro h
  have hn : NamesNoVersion ["stop", "--help"] := ⟨.stop, ["--help"], rfl, by decide, by decide⟩
  have hp : CommandLine.parse ["stop", "--help"] = .error .help := by decide
  obtain ⟨refusal, hr, hcode⟩ := h _ hn
  cases hp.symm.trans hr
  cases hcode

end AppVersions
