-- The laws of words: the arguments that are no options and no values of them show which subcommand
-- a line has and which versions it names, whether or not the line is accepted.
import AppVersions.Proofs.CommandLine.Acceptance
import AppVersions.Proofs.Outcomes

namespace AppVersions.CommandLine

/-! ## Words -/

/-- Whether an option with this name, and no value attached to it, takes the next argument. -/
def announces (scope : Scope) (name : String) : Bool :=
  (scope.named? name).any (·.takes != .nothing)

/-- The words among arguments: what is no option and no value of one, and all that stands after two
dashes alone. `awaits` says that an option takes the first argument. -/
def words (scope : Scope) : Bool → List String → List String
  | _, [] => []
  | awaits, s :: args =>
    match Token.ofString s with
    | .separator => args
    | .long name none => words scope (announces scope name) args
    | .long _ (some _) | .short _ => words scope false args
    | .plain => if awaits then words scope false args else s :: words scope false args

/-- The first word before a subcommand is known, and the arguments after it. -/
def firstWord? : Bool → List String → Option (String × List String)
  | _, [] => none
  | awaits, s :: args =>
    match Token.ofString s with
    | .separator => args.head?.map fun word => (word, args.tail)
    | .long name none => firstWord? (announces .root name) args
    | .long _ (some _) | .short _ => firstWord? false args
    | .plain => if awaits then firstWord? false args else some (s, args)

/-- The arguments ask a selection for no version at all: it has a subcommand that needs some, and no
word after that. -/
def NamesNoVersion (args : List String) : Prop :=
  ∃ (c : Subcommand) (back : List String), c.scope = .selection ∧
    firstWord? false args = some (c.name, back) ∧ words .selection false back = []

theorem announces_of_named {scope : Scope} {name : String} {o : Opt}
    (h : scope.named? name = some o) : announces scope name = (o.takes != .nothing) := by
  unfold announces
  rw [h]
  rfl

theorem announces_of_flag {scope : Scope} {name : String} {o : Opt}
    (h : scope.named? name = some o) (ht : o.takes = .nothing) : announces scope name = false := by
  rw [announces_of_named h, ht]
  rfl

theorem announces_of_valued {scope : Scope} {name : String} {o : Opt}
    (h : scope.named? name = some o) (ht : o.takes ≠ .nothing) : announces scope name = true := by
  rw [announces_of_named h, bne_iff_ne]
  exact ht

/-! ## Words of accepted arguments -/

/-- The versions that arguments give are the words among them. -/
theorem words_of_written {scope : Scope} {w : Option Opt} {args versions : List String}
    {given : List (Opt × String)} (h : Written scope w args given versions) :
    words scope w.isSome args = versions := by
  induction h with
  | nothing => rfl
  | options hs _ ih =>
    rw [Option.isSome_none] at ih
    cases roleOf_of_role hs with
    | letters ht _ => simpa only [words, ht] using ih
    | flag ht ho hk => simpa only [words, ht, announces_of_flag ho hk] using ih
    | valued ht _ _ => simpa only [words, ht] using ih
  | announced hs _ ih =>
    rw [Option.isSome_some] at ih
    cases roleOf_of_role hs with
    | announced ht ho hk => simpa only [words, ht, announces_of_valued ho hk] using ih
  | value hs _ ih =>
    rw [Option.isSome_none] at ih
    simpa only [words, hs, Option.isSome_some, if_true] using ih
  | version hs _ ih =>
    cases roleOf_of_role hs with
    | version ht _ =>
      simp only [words, ht, Option.isSome_none, Bool.false_eq_true, if_false]
      exact congrArg (_ :: ·) ih
  | separator hs _ =>
    cases roleOf_of_role hs with
    | separator ht => simp only [words, ht]

/-- As long as no subcommand is found, the first word stands among the arguments that are left. -/
theorem firstWord_of_stepped {l m : Level} {s : String} (h : Level.Stepped .root l s m)
    (ht : m.trailing = false) (args : List String) :
    firstWord? l.awaitsValue (s :: args) = firstWord? m.awaitsValue args := by
  rw [awaitsValue_eq, awaitsValue_eq]
  cases h with
  | options hs _ _ hw' _ _ =>
    rw [hw', Option.isSome_none]
    cases roleOf_of_role hs with
    | letters ht _ => simp only [firstWord?, ht]
    | flag ht ho hk => simp only [firstWord?, ht, announces_of_flag ho hk]
    | valued ht _ _ => simp only [firstWord?, ht]
  | announced hs _ _ hw' _ _ =>
    rw [hw', Option.isSome_some]
    cases roleOf_of_role hs with
    | announced ht ho hk => simp only [firstWord?, ht, announces_of_valued ho hk]
  | value hs hw _ hw' _ _ =>
    rw [hw, hw', Option.isSome_some, Option.isSome_none]
    simp only [firstWord?, hs, if_true]
  | version hs _ _ _ _ _ => cases selection_of_version hs
  | separator _ hl =>
    subst hl
    cases ht

theorem token_of_subcommand (c : Subcommand) : Token.ofString c.name = .plain := by
  cases c <;> decide

/-- The subcommand of an accepted line is its first word. -/
theorem firstWord_of_readFrom {l : Level} {args : List String} {p : Parts}
    (ht : l.trailing = false) (h : readFrom l args = .ok p) :
    ∃ back, firstWord? l.awaitsValue args = some (p.subcommand.name, back) ∧
      readAfter p.subcommand back = .ok p.after := by
  induction args generalizing l with
  | nil => exact absurd h (readFrom_nil l p)
  | cons s args ih =>
    rcases readFrom_cons h with ⟨m, hm, h⟩ | ⟨_, hw, rfl, ha, _⟩
    · have ht' : m.trailing = false := by
        rw [← Bool.not_eq_true]
        exact fun hn => readFrom_of_trailing hn args p h
      rw [firstWord_of_stepped (Level.next_stepped ht hm) ht']
      exact ih ht' h
    · refine ⟨args, ?_, ha⟩
      unfold firstWord?
      simp only [token_of_subcommand, awaitsValue_eq, hw, Option.isSome_none, Bool.false_eq_true,
        if_false]

/-- The versions of an accepted line are the words after its subcommand. -/
theorem words_of_parse {args : List String} {i : Invocation} (h : parse args = .ok i) :
    ∃ (c : Subcommand) (back : List String), firstWord? false args = some (c.name, back) ∧
      i.operation.name = c.name ∧
      (c.scope = .selection → words .selection false back = i.operation.versions ∧
        i.operation.versions ≠ []) := by
  obtain ⟨p, hp, rfl⟩ := parse_ok h
  obtain ⟨back, hf, ha⟩ := firstWord_of_readFrom rfl hp
  obtain ⟨hr, hv⟩ := readAfter_ok ha
  have hwords := words_of_written (Level.read_written hr)
  refine ⟨p.subcommand, back, hf, ?_, ?_⟩
  · show p.operation.name = p.subcommand.name
    unfold Parts.operation
    cases p.subcommand <;> rfl
  · intro hc
    have hversions : p.invocation.operation.versions = p.after.versions := by
      show p.operation.versions = p.after.versions
      unfold Parts.operation
      revert hc
      cases p.subcommand with
      | list => exact nofun
      | start | stop | delete => exact fun _ => rfl
    rw [hc] at hwords
    rw [hversions]
    exact ⟨hwords, hv hc⟩

/-- What names no version is not accepted. -/
theorem parse_ne_ok_of_namesNoVersion {args : List String} (h : NamesNoVersion args)
    (i : Invocation) : parse args ≠ .ok i := by
  obtain ⟨c, back, hc, hf, hw⟩ := h
  intro hi
  obtain ⟨c', back', hf', _, hv⟩ := words_of_parse hi
  obtain ⟨hname, rfl⟩ := Prod.mk.inj (Option.some.inj (hf'.symm.trans hf))
  have hsame : c' = c := by
    revert hname
    cases c <;> cases c' <;> decide
  rw [hsame] at hv
  obtain ⟨hwords, hne⟩ := hv hc
  exact hne (hwords.symm.trans hw)

/-! ## Asking for help -/

/-- An argument that asks for help, by the name of the option or by its letter. -/
inductive AsksForHelp (s : String) : Prop
  | named (ht : Token.ofString s = .long Opt.help.name none)
  | lettered {cs : List Char} (ht : Token.ofString s = .short cs) (hc : 'h' ∈ cs)

namespace Level

/-- The option that waits is not the one that asks for help. -/
def Helpless (l : Level) : Prop := ∀ p ∈ l.pending, p.opt ≠ .help

theorem helpless_of_none {l : Level} (h : l.pending = none) : l.Helpless := by
  intro p hp
  rw [h] at hp
  cases hp

/-- Help is answered only where it is asked for, and no level waits to ask for it. -/
structure HelpsOnly (asked : Prop) (x : Except Refusal Level) : Prop where
  helpless : ∀ m, x = .ok m → m.Helpless
  asked : x = .error .help → asked

theorem helpsOnly_ok {asked : Prop} {l : Level} (hl : l.Helpless) : HelpsOnly asked (.ok l) := by
  refine ⟨?_, nofun⟩
  rintro m ⟨⟩
  exact hl

theorem helpsOnly_error {asked : Prop} {e : Refusal} (he : e ≠ .help) :
    HelpsOnly asked (.error e) := by
  refine ⟨nofun, ?_⟩
  rintro ⟨⟩
  exact absurd rfl he

theorem HelpsOnly.mono {asked asked' : Prop} {x : Except Refusal Level} (h : HelpsOnly asked x)
    (ha : asked → asked') : HelpsOnly asked' x :=
  ⟨h.helpless, fun hx => ha (h.asked hx)⟩

theorem HelpsOnly.bind {asked : Prop} {x : Except Refusal Level}
    {f : Level → Except Refusal Level} (h : HelpsOnly asked x)
    (hf : ∀ m, m.Helpless → HelpsOnly asked (f m)) : HelpsOnly asked (x >>= f) := by
  cases x with
  | error e =>
    refine ⟨nofun, ?_⟩
    rintro ⟨⟩
    exact h.asked rfl
  | ok m => exact hf m (h.helpless m rfl)

theorem helpsOnly_foldlM {σ : Type} {f : Level → σ → Except Refusal Level} {asks : σ → Prop}
    (hf : ∀ l a, l.Helpless → HelpsOnly (asks a) (f l a)) (as : List σ) {l : Level}
    (hl : l.Helpless) : HelpsOnly (∃ a ∈ as, asks a) (as.foldlM f l) := by
  induction as generalizing l with
  | nil => exact helpsOnly_ok hl
  | cons a as ih =>
    rw [List.foldlM_cons]
    refine ((hf l a hl).mono fun h => ⟨a, List.mem_cons_self, h⟩).bind ?_
    intro m hm
    refine (ih hm).mono ?_
    rintro ⟨b, hb, h⟩
    exact ⟨b, List.mem_cons_of_mem a hb, h⟩

theorem helpsOnly_add {l : Level} (hl : l.Helpless) (o : Opt) (value : String) :
    HelpsOnly (o = .help) (l.add o value) := by
  unfold add
  split
  · rename_i ho
    exact ⟨nofun, fun _ => ho⟩
  · split
    · exact helpsOnly_error nofun
    · split
      · exact helpsOnly_error nofun
      · exact helpsOnly_ok hl

theorem helpsOnly_settle {l : Level} (hl : l.Helpless) (asked : Prop) :
    HelpsOnly asked l.settle := by
  obtain ⟨given, versions, _ | ⟨o, _ | value⟩, trailing⟩ := l
  · exact helpsOnly_ok hl
  · exact helpsOnly_error nofun
  · exact (helpsOnly_add (helpless_of_none rfl) o value).mono fun ho => absurd ho (hl _ rfl)

theorem helpsOnly_give {l : Level} (hl : l.Helpless) (o : Opt) (value : String) :
    HelpsOnly (o = .help) (l.give o value) :=
  (helpsOnly_settle hl _).bind fun _ hm => helpsOnly_add hm o value

theorem helpsOnly_await {l : Level} (hl : l.Helpless) {o : Opt} (ho : o ≠ .help) (asked : Prop) :
    HelpsOnly asked (l.await o) := by
  refine (helpsOnly_settle hl _).bind fun m _ => helpsOnly_ok ?_
  rintro p ⟨⟩
  exact ho

theorem helpsOnly_letter (scope : Scope) {l : Level} (hl : l.Helpless) (c : Char) :
    HelpsOnly (c = 'h') (letter scope l c) := by
  unfold letter
  split
  · rename_i o ho
    refine (helpsOnly_give hl o "").mono ?_
    rintro rfl
    have hc := List.find?_some ho
    exact (Option.some.inj (beq_iff_eq.mp hc)).symm
  · exact helpsOnly_error nofun

theorem helpsOnly_long (scope : Scope) {l : Level} (hl : l.Helpless) (name : String)
    (value : Option String) :
    HelpsOnly (name = Opt.help.name ∧ value = none) (l.long scope name value) := by
  unfold long
  split
  · exact helpsOnly_error nofun
  · rename_i o ho
    have hname := List.find?_some ho
    rw [beq_iff_eq] at hname
    split
    · refine (helpsOnly_give hl o "").mono ?_
      rintro rfl
      exact ⟨hname.symm, rfl⟩
    · exact helpsOnly_error nofun
    · rename_i value ht
      refine (helpsOnly_give hl o value).mono ?_
      rintro rfl
      exact absurd rfl ht
    · rename_i ht
      refine helpsOnly_await hl ?_ _
      rintro rfl
      exact absurd rfl ht

theorem helpsOnly_positional (scope : Scope) {l : Level} (hl : l.Helpless) (s : String)
    (asked : Prop) : HelpsOnly asked (l.positional scope s) := by
  unfold positional
  cases scope with
  | root =>
    dsimp only
    split <;> exact helpsOnly_error nofun
  | listing => exact helpsOnly_error nofun
  | selection => exact (helpsOnly_settle hl _).bind fun m hm => helpsOnly_ok hm

theorem helpsOnly_next (scope : Scope) {l : Level} (hl : l.Helpless) (s : String) :
    HelpsOnly (AsksForHelp s) (l.next scope s) := by
  unfold next
  split
  · exact helpsOnly_positional scope hl s _
  · cases ht : Token.ofString s with
    | separator => exact helpsOnly_ok hl
    | long name value =>
      refine (helpsOnly_long scope hl name value).mono ?_
      rintro ⟨rfl, rfl⟩
      exact .named ht
    | short cs =>
      refine (helpsOnly_foldlM (fun _ c hl => helpsOnly_letter scope hl c) cs hl).mono ?_
      rintro ⟨c, hc, rfl⟩
      exact .lettered ht hc
    | plain =>
      dsimp only
      split
      · rename_i o hp
        have ho : o ≠ .help := hl ⟨o, none⟩ hp
        refine helpsOnly_ok ?_
        rintro p ⟨⟩
        exact ho
      · exact helpsOnly_positional scope hl s _

theorem asks_of_read {scope : Scope} {args : List String} (h : read scope args = .error .help) :
    ∃ s ∈ args, AsksForHelp s := by
  have hread : HelpsOnly (∃ s ∈ args, AsksForHelp s) (read scope args) :=
    (helpsOnly_foldlM (fun _ s hl => helpsOnly_next scope hl s) args (helpless_of_none rfl)).bind
      fun _ hm => helpsOnly_settle hm _
  exact hread.asked h

end Level

/-! ## Refusals -/

theorem asks_of_readAfter {c : Subcommand} {args : List String}
    (h : readAfter c args = .error .help) : ∃ s ∈ args, AsksForHelp s := by
  obtain hr | ⟨l, _, hv⟩ := error_of_bind h
  · exact Level.asks_of_read hr
  · dsimp only at hv
    split at hv <;> cases hv

/-- Where help can come from before a subcommand is found. -/
theorem readFrom_cons_of_help {l : Level} {s : String} {args : List String}
    (h : readFrom l (s :: args) = .error .help) :
    l.next .root s = .error .help ∨ (∃ m, l.next .root s = .ok m ∧ readFrom m args = .error .help) ∨
      l.awaitsValue = false ∧ s = helpName ∨ (∃ c, readAfter c args = .error .help) ∨
      l.settle = .error .help := by
  unfold readFrom at h
  split at h
  · rcases error_of_bind h with h | h
    · exact .inl h
    · exact .inr (.inl h)
  · rename_i hl
    split at h
    · rename_i hs
      simp only [Bool.or_eq_true, not_or, Bool.not_eq_true] at hl
      exact .inr (.inr (.inl ⟨hl.2, hs⟩))
    · split at h
      · rename_i c _
        rcases error_of_bind h with h | ⟨after, _, h⟩
        · exact .inr (.inr (.inr (.inl ⟨c, h⟩)))
        · rcases error_of_bind h with h | ⟨before, _, h⟩
          · exact .inr (.inr (.inr (.inr h)))
          · cases h
      · rcases error_of_bind h with h | h
        · exact .inl h
        · exact .inr (.inl h)

theorem readFrom_nil_ne_help {l : Level} (hl : l.Helpless) : readFrom l [] ≠ .error .help := by
  intro h
  unfold readFrom at h
  obtain hs | ⟨m, _, h⟩ := error_of_bind h
  · exact (Level.helpsOnly_settle hl False).asked hs
  · split at h <;> cases h

/-- After two dashes alone nothing asks for help any more. -/
theorem readFrom_ne_help_of_trailing {l : Level} (hl : l.Helpless) (ht : l.trailing = true)
    (args : List String) : readFrom l args ≠ .error .help := by
  intro h
  cases args with
  | nil => exact readFrom_nil_ne_help hl h
  | cons s args =>
    unfold readFrom at h
    rw [if_pos (by rw [ht]; rfl)] at h
    have hnext : ∀ m, l.next .root s ≠ .ok m := by
      intro m hm
      unfold Level.next at hm
      rw [if_pos ht] at hm
      cases (Level.positional_ok hm).1
    obtain hs | ⟨m, hm, _⟩ := error_of_bind h
    · unfold Level.next at hs
      rw [if_pos ht] at hs
      exact (Level.helpsOnly_positional .root hl s False).asked hs
    · exact hnext m hm

/-- Help is the answer only where an option or the first word asks for it. -/
theorem asks_of_readFrom {l : Level} {args : List String} (hl : l.Helpless)
    (ht : l.trailing = false) (h : readFrom l args = .error .help) :
    (∃ s ∈ args, AsksForHelp s) ∨ ∃ back, firstWord? l.awaitsValue args = some (helpName, back) := by
  induction args generalizing l with
  | nil => exact absurd h (readFrom_nil_ne_help hl)
  | cons s args ih =>
    rcases readFrom_cons_of_help h with h | ⟨m, hm, h⟩ | ⟨hw, rfl⟩ | ⟨c, h⟩ | h
    · exact .inl ⟨s, List.mem_cons_self, (Level.helpsOnly_next .root hl s).asked h⟩
    · have hl' := (Level.helpsOnly_next .root hl s).helpless m hm
      have ht' : m.trailing = false := by
        rw [← Bool.not_eq_true]
        exact fun hn => readFrom_ne_help_of_trailing hl' hn args h
      rw [firstWord_of_stepped (Level.next_stepped ht hm) ht']
      refine (ih hl' ht' h).imp_left ?_
      rintro ⟨s', hs', ha⟩
      exact ⟨s', List.mem_cons_of_mem s hs', ha⟩
    · have hplain : Token.ofString helpName = .plain := by decide
      refine .inr ⟨args, ?_⟩
      simp only [firstWord?, hplain, hw, Bool.false_eq_true, if_false]
    · obtain ⟨s', hs', ha⟩ := asks_of_readAfter h
      exact .inl ⟨s', List.mem_cons_of_mem s hs', ha⟩
    · exact ((Level.helpsOnly_settle hl False).asked h).elim

/-- Arguments that name no version are refused, as a mistake unless one of them asks for help. -/
theorem refused_of_namesNoVersion {args : List String} (h : NamesNoVersion args) :
    ∃ refusal, parse args = .error refusal ∧
      (refusal.exitCode = 2 ∨ refusal = .help ∧ ∃ s ∈ args, AsksForHelp s) := by
  cases hp : parse args with
  | ok i => exact absurd hp (parse_ne_ok_of_namesNoVersion h i)
  | error refusal =>
    refine ⟨refusal, rfl, ?_⟩
    by_cases hr : refusal = .help
    · subst hr
      obtain ⟨c, back, _, hf, _⟩ := h
      right
      rcases asks_of_readFrom (Level.helpless_of_none rfl) rfl (error_of_map hp) with ha | ⟨_, hw⟩
      · exact ⟨rfl, ha⟩
      · have hname : c.name = helpName := (Prod.mk.inj (Option.some.inj (hf.symm.trans hw))).1
        have hne : c.name ≠ helpName := by cases c <;> decide
        exact absurd hname hne
    · left
      cases refusal with
      | help => exact absurd rfl hr
      | nothingGiven | missingSubcommand | missingVersions | invalidSubcommand | unknownArgument
      | invalidValue | tooManyValues | givenTwice => rfl

end AppVersions.CommandLine
