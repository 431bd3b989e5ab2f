-- The laws of layers: they may be merged in any grouping, and what a stack of them comes to is,
-- field by field, what the last layer says that sets the field.
import AppVersions.Options
import Mathlib.Data.List.Induction

namespace AppVersions.GcloudOptions

/-! ## The fields of options -/

/-- The fields that hold one value or none. -/
inductive Choice
  | metricsEnvironment
  | metricsEnvironmentVersion
  | credentialFile
  | outputFormat
  | showStructuredLogs
  | verbosity
  deriving DecidableEq, Repr

/-- The text that options choose, if they set the field. -/
def Choice.of : Choice → GcloudOptions → Option String
  | .metricsEnvironment, o => o.metricsEnvironment
  | .metricsEnvironmentVersion, o => o.metricsEnvironmentVersion
  | .credentialFile, o => o.credentialFile.map Path.text
  | .outputFormat, o => o.outputFormat
  | .showStructuredLogs, o => o.showStructuredLogs
  | .verbosity, o => o.verbosity

/-- The choices and the flags files are all there is to options. -/
theorem eq_of_choices {a b : GcloudOptions} (h : ∀ x : Choice, x.of a = x.of b)
    (hf : a.flagsFiles = b.flagsFiles) : a = b := by
  have hc : a.credentialFile = b.credentialFile :=
    Option.map_injective (fun ⟨_⟩ ⟨_⟩ he => congrArg Path.mk he) (h .credentialFile)
  obtain ⟨_, _, _, _, _, _, _⟩ := a
  obtain ⟨_, _, _, _, _, _, _⟩ := b
  obtain rfl := hf
  obtain rfl := hc
  obtain rfl := h .metricsEnvironment
  obtain rfl := h .metricsEnvironmentVersion
  obtain rfl := h .outputFormat
  obtain rfl := h .showStructuredLogs
  obtain rfl := h .verbosity
  rfl

/-- No field is set in both. -/
structure Apart (a b : GcloudOptions) : Prop where
  choices : ∀ x : Choice, x.of a = none ∨ x.of b = none
  flagsFiles : a.flagsFiles = [] ∨ b.flagsFiles = []

/-- `lower` and `upper` have between them what `o` sets: each choice is made in one of them, and the
flags files all stand in one. -/
structure Divides (o lower upper : GcloudOptions) : Prop where
  choices : ∀ x : Choice, x.of lower = x.of o ∧ x.of upper = none ∨
    x.of lower = none ∧ x.of upper = x.of o
  flagsFiles : lower.flagsFiles = o.flagsFiles ∧ upper.flagsFiles = [] ∨
    lower.flagsFiles = [] ∧ upper.flagsFiles = o.flagsFiles

/-! ## Two layers -/

theorem of_unset (x : Choice) : x.of unset = none := by
  cases x <;> rfl

theorem of_merge (x : Choice) (lower upper : GcloudOptions) :
    x.of (lower.merge upper) = (x.of upper).or (x.of lower) := by
  cases x with
  | credentialFile => exact Option.map_or
  | metricsEnvironment | metricsEnvironmentVersion | outputFormat | showStructuredLogs
  | verbosity => rfl

/-- No files in place of no files. -/
theorem files_or_none (files : List Path) : (if files = [] then [] else files) = files := by
  split
  · rename_i h
    exact h.symm
  · rfl

theorem flagsFiles_merge (lower upper : GcloudOptions) :
    (lower.merge upper).flagsFiles =
      if upper.flagsFiles = [] then lower.flagsFiles else upper.flagsFiles := by
  unfold merge
  dsimp only
  cases upper.flagsFiles <;> rfl

theorem merge_assoc (a b c : GcloudOptions) : (a.merge b).merge c = a.merge (b.merge c) := by
  refine eq_of_choices (fun x => ?_) ?_
  · simp only [of_merge, Option.or_assoc]
  · simp only [flagsFiles_merge]
    by_cases hc : c.flagsFiles = []
    · simp only [if_pos hc]
    · simp only [if_neg hc]

theorem unset_merge (a : GcloudOptions) : unset.merge a = a := by
  refine eq_of_choices (fun x => ?_) ?_
  · rw [of_merge, of_unset, Option.or_none]
  · rw [flagsFiles_merge]
    exact files_or_none a.flagsFiles

theorem merge_unset (a : GcloudOptions) : a.merge unset = a := by
  refine eq_of_choices (fun x => ?_) ?_
  · rw [of_merge, of_unset, Option.none_or]
  · exact (flagsFiles_merge a unset).trans (if_pos rfl)

theorem merge_self (a : GcloudOptions) : a.merge a = a := by
  refine eq_of_choices (fun x => ?_) ?_
  · rw [of_merge, Option.or_self]
  · rw [flagsFiles_merge, ite_self]

theorem merge_comm_of_apart {a b : GcloudOptions} (h : a.Apart b) : a.merge b = b.merge a := by
  refine eq_of_choices (fun x => ?_) ?_
  · rw [of_merge, of_merge]
    rcases h.choices x with hx | hx <;> rw [hx, Option.none_or, Option.or_none]
  · rw [flagsFiles_merge, flagsFiles_merge]
    rcases h.flagsFiles with hf | hf
    · rw [hf, if_pos rfl]
      exact files_or_none b.flagsFiles
    · rw [hf, if_pos rfl]
      exact (files_or_none a.flagsFiles).symm

/-- Options that were divided come back when the layers are merged. -/
theorem merge_of_divides {o lower upper : GcloudOptions} (h : Divides o lower upper) :
    lower.merge upper = o := by
  refine eq_of_choices (fun x => ?_) ?_
  · rw [of_merge]
    rcases h.choices x with ⟨hl, hu⟩ | ⟨hl, hu⟩
    · rw [hu, hl, Option.none_or]
    · rw [hu, hl, Option.or_none]
  · rw [flagsFiles_merge]
    rcases h.flagsFiles with ⟨hl, hu⟩ | ⟨hl, hu⟩
    · rw [hu, if_pos rfl, hl]
    · rw [hu, hl]
      exact files_or_none o.flagsFiles

/-! ## Stacks of layers -/

theorem ofLayers_concat (layers : List GcloudOptions) (top : GcloudOptions) :
    ofLayers (layers ++ [top]) = (ofLayers layers).merge top :=
  List.foldl_append

/-- The last layer of a stack that sets a field has its value. -/
theorem of_ofLayers (x : Choice) (layers : List GcloudOptions) :
    x.of (ofLayers layers) = (layers.filterMap x.of).getLast? := by
  induction layers using List.reverseRecOn with
  | nil => exact of_unset x
  | append_singleton layers top ih =>
    rw [ofLayers_concat, of_merge, ih, List.filterMap_append]
    cases hx : x.of top with
    | none => simp [hx]
    | some v => simp [hx]

/-- The last layer that has flags files has them all. -/
theorem flagsFiles_ofLayers (layers : List GcloudOptions) :
    (ofLayers layers).flagsFiles =
      ((layers.map flagsFiles).filter (· ≠ [])).getLast?.getD [] := by
  induction layers using List.reverseRecOn with
  | nil => rfl
  | append_singleton layers top ih =>
    rw [ofLayers_concat, flagsFiles_merge, ih, List.map_append, List.filter_append]
    by_cases ht : top.flagsFiles = []
    · simp [ht]
    · simp [ht]

/-- Layers may be merged in any grouping, nothing is lost or added by a layer that sets nothing or
stands there twice, and the order only matters where two layers set one field: then the last one
has its say, and its list of flags files replaces all below. -/
theorem the_last_layer_that_sets_a_field_decides :
    (∀ a b c : GcloudOptions, (a.merge b).merge c = a.merge (b.merge c)) ∧
      (∀ a : GcloudOptions, unset.merge a = a ∧ a.merge unset = a ∧ a.merge a = a) ∧
      (∀ layers : List GcloudOptions,
        (∀ x : Choice, x.of (ofLayers layers) = (layers.filterMap x.of).getLast?) ∧
          (ofLayers layers).flagsFiles =
            ((layers.map flagsFiles).filter (· ≠ [])).getLast?.getD []) ∧
      ∀ a b : GcloudOptions, a.Apart b → a.merge b = b.merge a :=
  ⟨merge_assoc, fun a => ⟨unset_merge a, merge_unset a, merge_self a⟩,
    fun layers => ⟨fun x => of_ofLayers x layers, flagsFiles_ofLayers layers⟩,
    fun _ _ => merge_comm_of_apart⟩

/-- Two layers that set different fields may change places. -/
theorem a_layer_of_files_passes_a_layer_of_choices :
    let files : GcloudOptions := { flagsFiles := [⟨"/a.yaml"⟩, ⟨"/a.yaml"⟩] }
    let choices : GcloudOptions := { credentialFile := some ⟨""⟩, verbosity := some "--format" }
    files.Apart choices ∧ files.merge choices = choices.merge files := by
  intro files choices
  have h : files.Apart choices := ⟨fun x => by cases x <;> exact .inl rfl, .inr rfl⟩
  exact ⟨h, the_last_layer_that_sets_a_field_decides.2.2.2 files choices h⟩

end AppVersions.GcloudOptions
