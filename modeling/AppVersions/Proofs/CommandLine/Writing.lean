-- The laws of writing command lines: an invocation may be written in many ways, by the place, the
-- order and the spelling of its options, and reading gives it back from each of them.
import AppVersions.Proofs.CommandLine.Acceptance

namespace AppVersions.CommandLine

/-! ## Spelling -/

/-- A text that no option begins with: it does not start with a dash, or it is a dash alone. -/
def Bare (s : String) : Prop := s = "-" ∨ s.toList.head? ≠ some '-'

/-- The arguments that write an option with its value. -/
inductive Spelled (o : Opt) : String → List String → Prop
  | joined (value : String) : Spelled o value ["--" ++ o.name ++ "=" ++ value]
  | apart {value : String} (hv : value ≠ "") (hb : Bare value) :
      Spelled o value ["--" ++ o.name, value]

/-- The letter for verbosity `n` times, after one dash. -/
def verboseLetters (n : Nat) : String := "-" ++ .ofList (List.replicate n 'v')

/-- Arguments on one side of the command line that are put down one after another, with the options
and the versions that they are to give. -/
inductive Laid (scope : Scope) : List String → List (Opt × String) → List String → Prop
  | nothing : Laid scope [] [] []
  | valued {o : Opt} {value : String} {spelling args versions : List String}
      {given : List (Opt × String)} (ho : o ∈ scope.options) (ht : o.takes ≠ .nothing)
      (hs : Spelled o value spelling) (h : Laid scope args given versions) :
      Laid scope (spelling ++ args) ((o, value) :: given) versions
  | flag {o : Opt} {args versions : List String} {given : List (Opt × String)}
      (ho : o ∈ scope.options) (ht : o.takes = .nothing) (h : Laid scope args given versions) :
      Laid scope (("--" ++ o.name) :: args) ((o, "") :: given) versions
  | letters (n : Nat) {args versions : List String} {given : List (Opt × String)}
      (h : Laid scope args given versions) :
      Laid scope (verboseLetters (n + 1) :: args)
        (List.replicate (n + 1) (.verbose, "") ++ given) versions
  | version {s : String} {args versions : List String} {given : List (Opt × String)}
      (hs : scope = .selection) (hb : Bare s) (h : Laid scope args given versions) :
      Laid scope (s :: args) given (s :: versions)
  | separator (hs : scope = .selection) (versions : List String) :
      Laid scope ("--" :: versions) [] versions

/-! ## What spellings are -/

theorem name_ne_nil (o : Opt) : o.name.toList ≠ [] := by
  cases o <;> decide

theorem equals_not_mem_name (o : Opt) : '=' ∉ o.name.toList := by
  cases o <;> decide

theorem token_of_name (o : Opt) : Token.ofString ("--" ++ o.name) = .long o.name none := by
  cases o <;> decide

theorem token_of_joined (o : Opt) (value : String) :
    Token.ofString ("--" ++ o.name ++ "=" ++ value) = .long o.name (some value) := by
  have hp : ∀ c ∈ o.name.toList, (c != '=') = true := by
    intro c hc
    rw [bne_iff_ne]
    rintro rfl
    exact equals_not_mem_name o hc
  have hs : ("--" ++ o.name ++ "=" ++ value).toList =
      '-' :: '-' :: (o.name.toList ++ '=' :: value.toList) := by
    simp [String.toList_append]
  have ht : (o.name.toList ++ '=' :: value.toList).takeWhile (· != '=') = o.name.toList := by
    rw [List.takeWhile_append_of_pos hp]
    simp
  have hd : (o.name.toList ++ '=' :: value.toList).dropWhile (· != '=') = '=' :: value.toList := by
    rw [List.dropWhile_append_of_pos hp]
    simp
  unfold Token.ofString
  rw [hs]
  obtain ⟨c, cs, hc⟩ := List.exists_cons_of_ne_nil (name_ne_nil o)
  have hl : Token.ofChars ('-' :: '-' :: (o.name.toList ++ '=' :: value.toList)) =
      .long (.ofList ((o.name.toList ++ '=' :: value.toList).takeWhile (· != '=')))
        (attached? (o.name.toList ++ '=' :: value.toList)) := by
    rw [hc]
    rfl
  rw [hl, ht]
  unfold attached?
  rw [hd]
  simp

theorem token_of_letters (n : Nat) :
    Token.ofString (verboseLetters (n + 1)) = .short (List.replicate (n + 1) 'v') := by
  have hs : (verboseLetters (n + 1)).toList = '-' :: 'v' :: List.replicate n 'v' := by
    simp [verboseLetters, String.toList_append, List.replicate_succ]
  unfold Token.ofString
  rw [hs, List.replicate_succ]
  rfl

theorem token_of_bare {s : String} (h : Bare s) : Token.ofString s = .plain := by
  rcases h with rfl | h
  · rfl
  · unfold Token.ofString
    cases hs : s.toList with
    | nil => rfl
    | cons c cs =>
      rw [hs] at h
      have hc : c ≠ '-' := by simpa using h
      unfold Token.ofChars
      split
      · rename_i he
        exact absurd (List.cons.inj he).1 hc
      · rename_i he
        exact absurd (List.cons.inj he).1 hc
      · rename_i he
        exact absurd (List.cons.inj he).1 hc
      · rfl

/-! ## Roles of spellings -/

theorem named_of_mem {scope : Scope} {o : Opt} (h : o ∈ scope.options) :
    scope.named? o.name = some o := by
  revert h
  cases scope <;> cases o <;> decide

theorem lettered_verbose (scope : Scope) : scope.lettered? 'v' = some .verbose := by
  cases scope <;> decide

theorem role_of_joined {scope : Scope} {o : Opt} (ho : o ∈ scope.options)
    (ht : o.takes ≠ .nothing) (value : String) :
    role? scope ("--" ++ o.name ++ "=" ++ value) = some (.options [(o, value)]) := by
  unfold role?
  rw [token_of_joined]
  dsimp only
  rw [named_of_mem ho, Option.bind_some]
  split <;> simp_all

theorem role_of_announcement {scope : Scope} {o : Opt} (ho : o ∈ scope.options)
    (ht : o.takes ≠ .nothing) : role? scope ("--" ++ o.name) = some (.announcement o) := by
  unfold role?
  rw [token_of_name]
  dsimp only
  rw [named_of_mem ho, Option.bind_some]
  split <;> simp_all

theorem role_of_flag {scope : Scope} {o : Opt} (ho : o ∈ scope.options)
    (ht : o.takes = .nothing) : role? scope ("--" ++ o.name) = some (.options [(o, "")]) := by
  unfold role?
  rw [token_of_name]
  dsimp only
  rw [named_of_mem ho, Option.bind_some, ht]

theorem mapM_lettered (scope : Scope) (n : Nat) :
    (List.replicate n 'v').mapM scope.lettered? = some (List.replicate n .verbose) := by
  induction n with
  | zero => rfl
  | succ n ih =>
    rw [List.replicate_succ, List.mapM_cons, lettered_verbose, ih]
    rfl

theorem role_of_letters (scope : Scope) (n : Nat) :
    role? scope (verboseLetters (n + 1)) =
      some (.options (List.replicate (n + 1) (.verbose, ""))) := by
  unfold role?
  rw [token_of_letters]
  dsimp only
  rw [mapM_lettered]
  simp

/-- What is put down is written. -/
theorem written_of_laid {scope : Scope} {args versions : List String}
    {given : List (Opt × String)} (h : Laid scope args given versions) :
    Written scope none args given versions := by
  induction h with
  | nothing => exact .nothing
  | valued ho ht hs _ ih =>
    cases hs with
    | joined => exact .options (role_of_joined ho ht _) ih
    | apart hv hb => exact .announced (role_of_announcement ho ht) (.value (token_of_bare hb) ih)
  | flag ho ht _ ih => exact .options (role_of_flag ho ht) ih
  | letters n _ ih => exact .options (role_of_letters scope n) ih
  | version hs hb _ ih =>
    refine .version ?_ ih
    unfold role?
    rw [token_of_bare hb]
    exact if_pos hs
  | separator hs versions => exact .separator rfl (.inl hs)

/-- Two dashes alone are put down only among versions. -/
theorem separator_not_mem_of_laid {scope : Scope} (hs : scope ≠ .selection)
    {args versions : List String} {given : List (Opt × String)}
    (h : Laid scope args given versions) : "--" ∉ args := by
  have hbare : ∀ {s : String}, Bare s → "--" ≠ s := by
    rintro s hb rfl
    cases token_of_bare hb
  induction h with
  | nothing => exact List.not_mem_nil
  | @valued o value spelling args versions given ho ht hsp _ ih =>
    have hname : "--" ≠ "--" ++ o.name := by cases o <;> decide
    have hjoined : "--" ≠ "--" ++ o.name ++ "=" ++ value := by
      intro he
      have := token_of_joined o value
      rw [← he] at this
      cases this
    cases hsp with
    | joined =>
      rw [List.mem_append, List.mem_singleton]
      exact fun hc => hc.elim hjoined ih
    | apart hv hb =>
      rw [List.mem_append, List.mem_cons, List.mem_singleton]
      rintro ((hc | hc) | hc)
      · exact hname hc
      · exact hbare hb hc
      · exact ih hc
  | @flag o args versions given ho ht _ ih =>
    have hname : "--" ≠ "--" ++ o.name := by cases o <;> decide
    exact fun hc => (List.mem_cons.mp hc).elim hname ih
  | letters n _ ih =>
    intro hc
    rcases List.mem_cons.mp hc with hc | hc
    · have := token_of_letters n
      rw [← hc] at this
      cases this
    · exact ih hc
  | version hn _ _ _ => exact absurd hn hs
  | separator hn _ => exact absurd hn hs

/-! ## Invocations -/

def subcommandOf : Operation → Subcommand
  | .start _ => .start
  | .stop _ => .stop
  | .delete _ => .delete
  | .list _ => .list

namespace Invocation

/-- The values that each option is to be given; the one for verbosity is given `n` times. -/
def values (i : Invocation) (n : Nat) : Opt → List String
  | .sdkHome => i.sdkHome.toList.map Path.text
  | .config => i.config.toList.map Path.text
  | .format => i.options.outputFormat.toList
  | .verbosity => i.options.verbosity.toList
  | .credentialFile => i.options.credentialFile.toList.map Path.text
  | .flagsFile => i.options.flagsFiles.map Path.text
  | .metricsEnvironment => i.options.metricsEnvironment.toList
  | .metricsEnvironmentVersion => i.options.metricsEnvironmentVersion.toList
  | .showStructuredLogs => i.options.showStructuredLogs.toList
  | .json => if i.json then [""] else []
  | .verbose => List.replicate n ""
  | .help => []
  | .service => i.operation.service?.toList
  | .project => i.operation.project?.toList
  | .hideNoTraffic => i.operation.hideNoTraffic?.toList.map fun b => if b then "true" else "false"

/-- All paths of an invocation. -/
def paths (i : Invocation) : List Path :=
  i.sdkHome.toList ++ i.config.toList ++ i.options.credentialFile.toList ++ i.options.flagsFiles

/-- A command line that is put down for an invocation: options on either side of the subcommand, the
versions after it, and each option with all its values on one side, in their order. -/
def LaidOut (i : Invocation) (n : Nat) (args : List String) : Prop :=
  ∃ front back before after, args = front ++ i.operation.name :: back ∧
    Laid .root front before [] ∧
    Laid (subcommandOf i.operation).scope back after i.operation.versions ∧
    ∀ o, occurrences before o = i.values n o ∧ occurrences after o = [] ∨
      occurrences before o = [] ∧ occurrences after o = i.values n o

end Invocation

theorem name_subcommandOf (op : Operation) : (subcommandOf op).name = op.name := by
  cases op <;> rfl

/-! ## One way of writing -/

/-- An option with its value as one argument. -/
def joinedArgument (p : Opt × String) : String :=
  if p.1.takes = .nothing then "--" ++ p.1.name else "--" ++ p.1.name ++ "=" ++ p.2

theorem laid_of_joined {scope : Scope} {given : List (Opt × String)}
    (h : ∀ p ∈ given, p.1 ∈ scope.options ∧ (p.1.takes = .nothing → p.2 = ""))
    {args versions : List String} (hl : Laid scope args [] versions) :
    Laid scope (given.map joinedArgument ++ args) given versions := by
  induction given with
  | nil => exact hl
  | cons p given ih =>
    obtain ⟨o, value⟩ := p
    obtain ⟨⟨ho, hv⟩, hg⟩ := List.forall_mem_cons.mp h
    by_cases ht : o.takes = .nothing
    · obtain rfl : value = "" := hv ht
      have hj : joinedArgument (o, "") = "--" ++ o.name := if_pos ht
      rw [List.map_cons, List.cons_append, hj]
      exact .flag ho ht (ih hg)
    · have hj : joinedArgument (o, value) = "--" ++ o.name ++ "=" ++ value := if_neg ht
      rw [List.map_cons, List.cons_append, hj]
      exact .valued ho ht (.joined value) (ih hg)

/-- All options of an invocation with their values, in one order. -/
def Invocation.given (i : Invocation) (n : Nat) : List (Opt × String) :=
  Scope.listing.options.flatMap fun o => (i.values n o).map (o, ·)

theorem occurrences_values (i : Invocation) (n : Nat) (p o : Opt) :
    occurrences ((i.values n p).map (p, ·)) o = if p = o then i.values n p else [] := by
  unfold occurrences
  split
  · rename_i h
    rw [List.filter_eq_self.mpr, List.map_map]
    · exact List.map_id _
    · intro q hq
      obtain ⟨value, _, rfl⟩ := List.mem_map.mp hq
      exact beq_iff_eq.mpr h
  · rename_i h
    rw [List.filter_eq_nil_iff.mpr]
    · rfl
    · intro q hq
      obtain ⟨value, _, rfl⟩ := List.mem_map.mp hq
      exact fun hb => h (beq_iff_eq.mp hb)

theorem occurrences_given (i : Invocation) (n : Nat) (o : Opt) :
    occurrences (i.given n) o = i.values n o := by
  unfold Invocation.given Scope.options Opt.globals
  cases o <;> simp [occurrences_append, occurrences_values]

theorem mem_selection_options {o : Opt} (h : o ≠ .hideNoTraffic) :
    o ∈ Scope.selection.options := by
  revert h
  cases o <;> decide

theorem known_of_mem_given {i : Invocation} {n : Nat} {p : Opt × String} (h : p ∈ i.given n) :
    p.1 ∈ (subcommandOf i.operation).scope.options ∧ (p.1.takes = .nothing → p.2 = "") := by
  obtain ⟨o, ho, h⟩ := List.mem_flatMap.mp h
  obtain ⟨value, hv, rfl⟩ := List.mem_map.mp h
  constructor
  · obtain ⟨op, options, sdkHome, config, json, verbosity⟩ := i
    cases op with
    | list l => exact ho
    | start s | stop s | delete s =>
      refine mem_selection_options ?_
      rintro rfl
      cases hv
  · intro ht
    cases o with
    | json =>
      unfold Invocation.values at hv
      dsimp only at hv
      split at hv
      · exact List.mem_singleton.mp hv
      · cases hv
    | verbose => exact (List.mem_replicate.mp hv).2
    | help => cases hv
    | _ => cases ht

/-- Every invocation can be put down. -/
theorem exists_laidOut (i : Invocation) (n : Nat) : ∃ args, i.LaidOut n args := by
  have htail : ∃ tail, Laid (subcommandOf i.operation).scope tail [] i.operation.versions := by
    cases i.operation with
    | list l => exact ⟨[], .nothing⟩
    | start s | stop s | delete s => exact ⟨_, .separator rfl s.versions⟩
  obtain ⟨tail, htail⟩ := htail
  refine ⟨_, [], _, [], i.given n, rfl, .nothing, laid_of_joined ?_ htail, ?_⟩
  · intro p hp
    exact known_of_mem_given hp
  · intro o
    exact .inr ⟨rfl, occurrences_given i n o⟩

/-! ## Reading what was written -/

theorem scope_subcommandOf {op : Operation} (h : (subcommandOf op).scope = .selection) :
    op.isListing = false := by
  cases op with
  | list l => cases h
  | start s | stop s | delete s => rfl

theorem length_values_le_one {o : Opt} (h : o.repeats = false) (i : Invocation) (n : Nat) :
    (i.values n o).length ≤ 1 := by
  have hone : ∀ {α : Type} (x : Option α), x.toList.length ≤ 1 := by
    rintro α (_ | a) <;> simp
  cases o with
  | flagsFile | verbose => cases h
  | json =>
    unfold Invocation.values
    dsimp only
    split <;> simp
  | help => exact Nat.zero_le 1
  | sdkHome | config | credentialFile | hideNoTraffic =>
    exact Nat.le_trans (Nat.le_of_eq (List.length_map _)) (hone _)
  | format | verbosity | metricsEnvironment | metricsEnvironmentVersion | showStructuredLogs
  | service | project => exact hone _

theorem accepts_values {i : Invocation} {n : Nat} (hp : ∀ p ∈ i.paths, p.text ≠ "") {o : Opt}
    {value : String} (h : value ∈ i.values n o) : o.accepts value = true := by
  have hpath : ∀ {paths : List Path}, (∀ p ∈ paths, p ∈ i.paths) →
      value ∈ paths.map Path.text → (value != "") = true := by
    intro paths hs hm
    obtain ⟨p, hpm, rfl⟩ := List.mem_map.mp hm
    exact bne_iff_ne.mpr (hp p (hs p hpm))
  cases o with
  | sdkHome | config | credentialFile | flagsFile =>
    refine hpath (fun p hm => ?_) h
    simp [Invocation.paths, hm]
  | hideNoTraffic =>
    obtain ⟨b, _, rfl⟩ := List.mem_map.mp h
    cases b <;> rfl
  | format | verbosity | metricsEnvironment | metricsEnvironmentVersion | showStructuredLogs
  | service | project | json | verbose | help => rfl

/-- Options with no more than an invocation's values fit together. -/
theorem fits_of_values {i : Invocation} {n : Nat} (hp : ∀ p ∈ i.paths, p.text ≠ "")
    {given : List (Opt × String)}
    (h : ∀ o, occurrences given o = i.values n o ∨ occurrences given o = []) : Fits given := by
  have hmem : ∀ p ∈ given, p.2 ∈ i.values n p.1 := by
    intro p hm
    have ho : p.2 ∈ occurrences given p.1 :=
      List.mem_map.mpr ⟨p, List.mem_filter.mpr ⟨hm, beq_self_eq_true _⟩, rfl⟩
    rcases h p.1 with h | h
    · rwa [h] at ho
    · rw [h] at ho
      cases ho
  refine ⟨?_, fun p hm => accepts_values hp (hmem p hm), ?_⟩
  · intro p hm hh
    have := hmem p hm
    rw [hh] at this
    cases this
  · intro o ho
    rcases h o with h | h
    · rw [h]
      exact length_values_le_one ho i n
    · rw [h]
      exact Nat.zero_le 1

theorem text_of_values {p : Parts} {o : Opt} {value : Option String}
    (h : p.values o = value.toList) : p.text? o = value := by
  unfold Parts.text?
  rw [h]
  cases value <;> rfl

theorem path_of_values {p : Parts} {o : Opt} {path : Option Path}
    (h : p.values o = path.toList.map Path.text) : p.path? o = path := by
  unfold Parts.path? Parts.text?
  rw [h]
  cases path <;> rfl

theorem operation_of_values {i : Invocation} {n : Nat} {p : Parts}
    (hs : p.subcommand = subcommandOf i.operation) (hv : p.after.versions = i.operation.versions)
    (h : ∀ o, p.values o = i.values n o) : p.operation = i.operation := by
  have hservice : p.text? .service = i.operation.service? := text_of_values (h .service)
  have hproject : p.text? .project = i.operation.project? := text_of_values (h .project)
  have hhide : (p.text? .hideNoTraffic).map (· == "true") = i.operation.hideNoTraffic? := by
    unfold Parts.text?
    rw [h]
    unfold Invocation.values
    obtain _ | b := i.operation.hideNoTraffic?
    · rfl
    · cases b <;> rfl
  unfold Parts.operation Parts.selection Parts.listing
  rw [hs, hv, hservice, hproject, hhide]
  cases i.operation <;> rfl

theorem options_of_values {i : Invocation} {n : Nat} {p : Parts}
    (h : ∀ o, p.values o = i.values n o) : p.options = i.options := by
  have hflags : (p.values .flagsFile).map Path.mk = i.options.flagsFiles := by
    rw [h]
    exact (List.map_map ..).trans (List.map_id _)
  unfold Parts.options
  rw [text_of_values (h .metricsEnvironment), text_of_values (h .metricsEnvironmentVersion),
    path_of_values (h .credentialFile), hflags, text_of_values (h .format),
    text_of_values (h .showStructuredLogs), text_of_values (h .verbosity)]

/-- Parts that hold an invocation's values and versions are the invocation. -/
theorem invocation_of_values {i : Invocation} {n : Nat} {p : Parts}
    (hs : p.subcommand = subcommandOf i.operation) (hv : p.after.versions = i.operation.versions)
    (h : ∀ o, p.values o = i.values n o) :
    p.invocation = { i with verbosity := min n 255 } := by
  have hjson : (!(p.values .json).isEmpty) = i.json := by
    rw [h]
    unfold Invocation.values
    cases i.json <;> rfl
  have hverbose : (p.values .verbose).length = n := by
    rw [h]
    exact List.length_replicate
  unfold Parts.invocation
  rw [operation_of_values hs hv h, options_of_values h, path_of_values (h .sdkHome),
    path_of_values (h .config), hjson, hverbose, Nat.min_comm]
  rfl

/-- Every invocation can be put down, and however that is done, reading the line gives it back. -/
theorem reading_gives_back_what_was_put_down {i : Invocation} {n : Nat}
    (hv : i.operation.isListing = true ∨ i.operation.versions ≠ [])
    (hp : ∀ p ∈ i.paths, p.text ≠ "") :
    (∃ args, i.LaidOut n args) ∧
      ∀ args, i.LaidOut n args → parse args = .ok { i with verbosity := min n 255 } := by
  refine ⟨exists_laidOut i n, ?_⟩
  intro args h
  obtain ⟨front, back, before, after, rfl, hfront, hback, hsides⟩ := h
  have hbefore : Fits before := fits_of_values hp fun o => (hsides o).imp And.left And.left
  have hafter : Fits after := fits_of_values hp fun o => (hsides o).symm.imp And.right And.right
  have hversions : (subcommandOf i.operation).scope = .selection → i.operation.versions ≠ [] := by
    intro hs
    rw [scope_subcommandOf hs] at hv
    exact hv.resolve_left Bool.false_ne_true
  obtain ⟨p, hr, hs, hb, ha, hpv⟩ := readFrom_of_line (written_of_laid hfront)
    (separator_not_mem_of_laid (by decide) hfront) (written_of_laid hback) hbefore hafter hversions
  have hvalues : ∀ o, p.values o = i.values n o := by
    intro o
    rw [values_of_parts, hb, ha]
    rcases hsides o with ⟨h, h'⟩ | ⟨h, h'⟩
    · rw [h, h', if_pos rfl]
    · rw [h, h']
      split
      · rename_i he
        exact he.symm
      · rfl
  rw [name_subcommandOf] at hr
  unfold parse
  rw [hr]
  exact congrArg Except.ok (invocation_of_values hs hpv hvalues)

/-- A stop written with both spellings, with options on both sides and among the versions, with
values that look like subcommands and flags, and with versions after two dashes alone. -/
def mixedLine : List String :=
  ["--flags-file=/a.yaml", "-v", "--format", "stop", "--flags-file", "b=c", "-vv", "stop",
    "--project=", "v1", "--json", "--verbosity=--debug", "list", "--service", "delete", "--",
    "--service", ""]

def mixedInvocation : Invocation where
  operation := .stop { versions := ["v1", "list", "--service", ""]
                       service := some "delete"
                       project := some "" }
  options := { flagsFiles := [⟨"/a.yaml"⟩, ⟨"b=c"⟩]
               outputFormat := some "stop"
               verbosity := some "--debug" }
  json := true
  verbosity := 3

theorem laidOut_mixedLine : mixedInvocation.LaidOut 3 mixedLine := by
  have hfront : Laid .root (mixedLine.take 7)
      [(.flagsFile, "/a.yaml"), (.verbose, ""), (.format, "stop"), (.flagsFile, "b=c"),
        (.verbose, ""), (.verbose, "")] [] := by
    have hflags : .flagsFile ∈ Scope.root.options := by decide
    refine .valued hflags (by decide) (.joined "/a.yaml") (.letters 0 ?_)
    refine .valued (o := .format) (by decide) (by decide) (.apart (by decide) (.inr (by decide))) ?_
    exact .valued hflags (by decide) (.apart (by decide) (.inr (by decide))) (.letters 1 .nothing)
  have hback : Laid .selection (mixedLine.drop 8)
      [(.project, ""), (.json, ""), (.verbosity, "--debug"), (.service, "delete")]
      mixedInvocation.operation.versions := by
    have hproject : .project ∈ Scope.selection.options := by decide
    refine .valued hproject (by decide) (.joined "") ?_
    refine .version rfl (.inr (by decide)) (.flag (o := .json) (by decide) (by decide) ?_)
    refine .valued (o := .verbosity) (by decide) (by decide) (.joined "--debug") ?_
    refine .version rfl (.inr (by decide)) ?_
    exact .valued (o := .service) (by decide) (by decide)
      (.apart (by decide) (.inr (by decide))) (.separator rfl _)
  refine ⟨_, _, _, _, rfl, hfront, hback, ?_⟩
  intro o
  cases o <;> decide

theorem a_mixed_line_is_given_back : parse mixedLine = .ok mixedInvocation := by
  have hp : ∀ p ∈ mixedInvocation.paths, p.text ≠ "" := by decide
  have h := reading_gives_back_what_was_put_down (n := 3) (.inr (by decide)) hp
  exact h.2 mixedLine laidOut_mixedLine

end AppVersions.CommandLine
