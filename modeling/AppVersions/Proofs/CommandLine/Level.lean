-- The laws of one side of the command line: an accepted level holds what its arguments give, option
-- by option and version by version, and arguments can be read in one way only.
import AppVersions.CommandLine.Level

namespace AppVersions.CommandLine

theorem bind_eq_ok_iff {ε α β : Type} {x : Except ε α} {f : α → Except ε β} {b : β} :
    (x >>= f) = .ok b ↔ ∃ a, x = .ok a ∧ f a = .ok b := by
  cases x with
  | error e => exact ⟨nofun, nofun⟩
  | ok a => exact ⟨fun h => ⟨a, rfl, h⟩, fun ⟨_, ha, h⟩ => by cases ha; exact h⟩

/-! ## What arguments give -/

/-- What an argument is to a level that waits for no value: options that are complete, the name of
one whose value is the next argument, a version, or the two dashes before the last versions. -/
inductive Role
  | options (items : List (Opt × String))
  | announcement (o : Opt)
  | version
  | separator

/-- The role of an argument, if it has one in a scope. -/
def role? (scope : Scope) (s : String) : Option Role :=
  match Token.ofString s with
  | .separator => some .separator
  | .plain => if scope = .selection then some .version else none
  | .short cs => (cs.mapM scope.lettered?).map fun os => .options (os.map (·, ""))
  | .long name value =>
    (scope.named? name).bind fun o =>
      match o.takes, value with
      | .nothing, none => some (.options [(o, "")])
      | .nothing, some _ => none
      | _, some value => some (.options [(o, value)])
      | _, none => some (.announcement o)

theorem selection_of_version {scope : Scope} {s : String}
    (h : role? scope s = some .version) : scope = .selection := by
  unfold role? at h
  split at h
  · cases h
  · split at h
    · assumption
    · cases h
  · obtain ⟨os, _, h⟩ := Option.map_eq_some_iff.mp h
    cases h
  · obtain ⟨o, _, h⟩ := Option.bind_eq_some_iff.mp h
    split at h <;> cases h

/-- Arguments, maybe after one that announces an option, with the options and the versions that they
give, in their order. -/
inductive Written (scope : Scope) :
    Option Opt → List String → List (Opt × String) → List String → Prop
  | nothing : Written scope none [] [] []
  | options {s : String} {args versions : List String} {items given : List (Opt × String)}
      (hs : role? scope s = some (.options items)) (h : Written scope none args given versions) :
      Written scope none (s :: args) (items ++ given) versions
  | announced {s : String} {o : Opt} {args versions : List String} {given : List (Opt × String)}
      (hs : role? scope s = some (.announcement o))
      (h : Written scope (some o) args given versions) :
      Written scope none (s :: args) given versions
  | value {s : String} {o : Opt} {args versions : List String} {given : List (Opt × String)}
      (hs : Token.ofString s = .plain) (h : Written scope none args given versions) :
      Written scope (some o) (s :: args) ((o, s) :: given) versions
  | version {s : String} {args versions : List String} {given : List (Opt × String)}
      (hs : role? scope s = some .version) (h : Written scope none args given versions) :
      Written scope none (s :: args) given (s :: versions)
  | separator {s : String} {versions : List String} (hs : role? scope s = some .separator)
      (hv : scope = .selection ∨ versions = []) : Written scope none (s :: versions) [] versions

namespace Level

/-! ## Options -/

/-- The options that were given, the one that waits to be checked too. -/
def heard (l : Level) : List (Opt × String) :=
  match l.pending with
  | some ⟨o, some value⟩ => l.given ++ [(o, value)]
  | _ => l.given

/-- The option that waits for its value. -/
def awaited? (l : Level) : Option Opt :=
  match l.pending with
  | some ⟨o, none⟩ => some o
  | _ => none

/-- What is checked when an option is added. -/
structure Admits (l : Level) (o : Opt) (value : String) : Prop where
  not_help : o ≠ .help
  not_twice : o.repeats = true ∨ l.values o = []
  accepted : o.accepts value = true

theorem add_eq_ok_iff {l l' : Level} {o : Opt} {value : String} :
    l.add o value = .ok l' ↔
      l.Admits o value ∧ l' = { l with given := l.given ++ [(o, value)] } := by
  unfold add
  constructor
  · intro h
    split at h
    · cases h
    · rename_i hh
      split at h
      · cases h
      · rename_i hr
        split at h
        · cases h
        · rename_i ha
          cases h
          refine ⟨⟨hh, ?_, by simpa using ha⟩, rfl⟩
          simp only [Bool.and_eq_true, Bool.not_eq_true', List.isEmpty_eq_false_iff, not_and,
            Decidable.not_not] at hr
          cases hb : o.repeats with
          | true => exact .inl rfl
          | false => exact .inr (hr hb)
  · rintro ⟨⟨hh, hr, ha⟩, rfl⟩
    rw [if_neg hh, if_neg, if_neg]
    · simp [ha]
    · rcases hr with hr | hr <;> simp [hr]

theorem settle_ok {l l' : Level} (h : l.settle = .ok l') :
    l.awaited? = none ∧ l' = { l with given := l.heard, pending := none } := by
  obtain ⟨given, versions, _ | ⟨o, _ | value⟩, trailing⟩ := l
  · cases h
    exact ⟨rfl, rfl⟩
  · cases h
  · exact ⟨rfl, (add_eq_ok_iff.mp h).2⟩

theorem give_ok {l l' : Level} {o : Opt} {value : String} (h : l.give o value = .ok l') :
    l.awaited? = none ∧ l' = { l with given := l.heard ++ [(o, value)], pending := none } := by
  obtain ⟨m, hm, ha⟩ := bind_eq_ok_iff.mp h
  obtain ⟨hw, rfl⟩ := settle_ok hm
  exact ⟨hw, (add_eq_ok_iff.mp ha).2⟩

theorem await_ok {l l' : Level} {o : Opt} (h : l.await o = .ok l') :
    l.awaited? = none ∧ l' = { l with given := l.heard, pending := some ⟨o, none⟩ } := by
  obtain ⟨m, hm, ha⟩ := bind_eq_ok_iff.mp h
  obtain ⟨hw, rfl⟩ := settle_ok hm
  cases ha
  exact ⟨hw, rfl⟩

theorem letters_ok {scope : Scope} {cs : List Char} {l l' : Level}
    (h : cs.foldlM (letter scope) l = .ok l') :
    ∃ os : List Opt, cs.mapM scope.lettered? = some os ∧ l'.trailing = l.trailing ∧
      l'.heard = l.heard ++ os.map (·, "") ∧ l'.versions = l.versions ∧
      l'.awaited? = l.awaited? ∧ (cs ≠ [] → l.awaited? = none) := by
  induction cs generalizing l with
  | nil =>
    cases h
    exact ⟨[], rfl, rfl, (List.append_nil _).symm, rfl, rfl, fun hn => absurd rfl hn⟩
  | cons c cs ih =>
    rw [List.foldlM_cons] at h
    obtain ⟨m, hm, h⟩ := bind_eq_ok_iff.mp h
    obtain ⟨os, hos, ht, hh, hv, hw, _⟩ := ih h
    unfold letter at hm
    split at hm
    · rename_i o ho
      obtain ⟨hl, rfl⟩ := give_ok hm
      refine ⟨o :: os, ?_, ht, ?_, hv, hw.trans hl.symm, fun _ => hl⟩
      · rw [List.mapM_cons, ho, hos]
        rfl
      · exact hh.trans (List.append_assoc _ [(o, "")] _)
    · cases hm

/-! ## One argument -/

/-- What one more argument does to a level where no two dashes stand alone. -/
inductive Stepped (scope : Scope) (l : Level) (s : String) (l' : Level) : Prop
  | options {items : List (Opt × String)} (hs : role? scope s = some (.options items))
      (hw : l.awaited? = none) (ht : l'.trailing = false) (hw' : l'.awaited? = none)
      (hh : l'.heard = l.heard ++ items) (hv : l'.versions = l.versions)
  | announced {o : Opt} (hs : role? scope s = some (.announcement o)) (hw : l.awaited? = none)
      (ht : l'.trailing = false) (hw' : l'.awaited? = some o) (hh : l'.heard = l.heard)
      (hv : l'.versions = l.versions)
  | value {o : Opt} (hs : Token.ofString s = .plain) (hw : l.awaited? = some o)
      (ht : l'.trailing = false) (hw' : l'.awaited? = none) (hh : l'.heard = l.heard ++ [(o, s)])
      (hv : l'.versions = l.versions)
  | version (hs : role? scope s = some .version) (hw : l.awaited? = none)
      (ht : l'.trailing = false) (hw' : l'.awaited? = none) (hh : l'.heard = l.heard)
      (hv : l'.versions = l.versions ++ [s])
  | separator (hs : role? scope s = some .separator) (hl : l' = { l with trailing := true })

/-- Letters are never none: a lone dash is nothing special. -/
theorem ne_nil_of_short {s : String} {cs : List Char} (h : Token.ofString s = .short cs) :
    cs ≠ [] := by
  unfold Token.ofString Token.ofChars at h
  split at h <;> cases h
  exact List.cons_ne_nil _ _

theorem positional_ok {scope : Scope} {l l' : Level} {s : String}
    (h : l.positional scope s = .ok l') :
    scope = .selection ∧ l.awaited? = none ∧
      l' = { l with given := l.heard, pending := none, versions := l.versions ++ [s] } := by
  unfold positional at h
  cases scope with
  | root =>
    dsimp only at h
    split at h <;> cases h
  | listing => cases h
  | selection =>
    obtain ⟨m, hm, h⟩ := bind_eq_ok_iff.mp h
    obtain ⟨hw, rfl⟩ := settle_ok hm
    cases h
    exact ⟨rfl, hw, rfl⟩

theorem long_stepped {scope : Scope} {l l' : Level} {s name : String} {value : Option String}
    (ht : l.trailing = false) (hs : Token.ofString s = .long name value)
    (h : l.long scope name value = .ok l') : Stepped scope l s l' := by
  unfold long at h
  split at h
  · cases h
  · rename_i o ho
    split at h
    · rename_i hn
      obtain ⟨hw, rfl⟩ := give_ok h
      exact .options (by simp [role?, hs, ho, hn]) hw ht rfl rfl rfl
    · cases h
    · obtain ⟨hw, rfl⟩ := give_ok h
      exact .options (by simp [role?, hs, ho]) hw ht rfl rfl rfl
    · obtain ⟨hw, rfl⟩ := await_ok h
      exact .announced (by simp [role?, hs, ho]) hw ht rfl rfl rfl

theorem next_stepped {scope : Scope} {l l' : Level} {s : String} (ht : l.trailing = false)
    (h : l.next scope s = .ok l') : Stepped scope l s l' := by
  unfold next at h
  rw [if_neg (by simp [ht])] at h
  split at h
  · rename_i hs
    cases h
    exact .separator (by simp [role?, hs]) rfl
  · rename_i name value hs
    exact long_stepped ht hs h
  · rename_i cs hs
    obtain ⟨os, hos, ht', hh, hv, hw, hn⟩ := letters_ok h
    have hl := hn (ne_nil_of_short hs)
    exact .options (by simp [role?, hs, hos]) hl (ht'.trans ht) (hw.trans hl) hh hv
  · rename_i hs
    split at h
    · rename_i o hp
      cases h
      refine .value (o := o) hs ?_ ht rfl ?_ rfl
      · unfold awaited?
        rw [hp]
      · unfold heard
        rw [hp]
    · obtain ⟨hscope, hw, rfl⟩ := positional_ok h
      exact .version (by simp [role?, hs, hscope]) hw ht rfl rfl rfl

/-- What is written after one more argument is written after the level before it, too. -/
theorem written_of_stepped {scope : Scope} {l l' : Level} {s : String} {args versions : List String}
    {given : List (Opt × String)} (h : Stepped scope l s l') (ht : l'.trailing = false)
    (hw : Written scope l'.awaited? args given versions) :
    ∃ given' versions', Written scope l.awaited? (s :: args) given' versions' ∧
      l'.heard ++ given = l.heard ++ given' ∧
      l'.versions ++ versions = l.versions ++ versions' := by
  cases h with
  | options hs hl _ hl' hh hv =>
    rw [hl'] at hw
    rw [hl, hh, hv, List.append_assoc]
    exact ⟨_, _, .options hs hw, rfl, rfl⟩
  | announced hs hl _ hl' hh hv =>
    rw [hl'] at hw
    rw [hl, hh, hv]
    exact ⟨_, _, .announced hs hw, rfl, rfl⟩
  | value hs hl _ hl' hh hv =>
    rw [hl'] at hw
    rw [hl, hh, hv, List.append_assoc]
    exact ⟨_, _, .value hs hw, rfl, rfl⟩
  | version hs hl _ hl' hh hv =>
    rw [hl'] at hw
    rw [hl, hh, hv, List.append_assoc]
    exact ⟨_, _, .version hs hw, rfl, rfl⟩
  | separator _ hl =>
    subst hl
    cases ht

/-! ## All arguments -/

/-- The level that arguments make of a level that is not finished. -/
def readOn (scope : Scope) (l : Level) (args : List String) : Except Refusal Level := do
  (← args.foldlM (next scope) l).settle

theorem readOn_cons {scope : Scope} {l f : Level} {s : String} {args : List String}
    (h : l.readOn scope (s :: args) = .ok f) :
    ∃ m, l.next scope s = .ok m ∧ m.readOn scope args = .ok f := by
  obtain ⟨e, he, hf⟩ := bind_eq_ok_iff.mp h
  rw [List.foldlM_cons] at he
  obtain ⟨m, hm, he⟩ := bind_eq_ok_iff.mp he
  exact ⟨m, hm, bind_eq_ok_iff.mpr ⟨e, he, hf⟩⟩

/-- After two dashes alone all arguments are versions, and no option may wait for its value. -/
theorem readOn_of_trailing {scope : Scope} {l f : Level} {args : List String}
    (ht : l.trailing = true) (h : l.readOn scope args = .ok f) :
    l.awaited? = none ∧ (scope = .selection ∨ args = []) ∧ f.given = l.heard ∧
      f.versions = l.versions ++ args := by
  induction args generalizing l with
  | nil =>
    obtain ⟨hw, rfl⟩ := settle_ok h
    exact ⟨hw, .inr rfl, rfl, (List.append_nil _).symm⟩
  | cons s args ih =>
    obtain ⟨m, hm, h⟩ := readOn_cons h
    unfold next at hm
    rw [if_pos ht] at hm
    obtain ⟨hscope, hw, rfl⟩ := positional_ok hm
    obtain ⟨_, _, hg, hv⟩ := ih (by exact ht) h
    exact ⟨hw, .inl hscope, hg, hv.trans (List.append_assoc _ [s] _)⟩

theorem readOn_written {scope : Scope} {l f : Level} {args : List String}
    (ht : l.trailing = false) (h : l.readOn scope args = .ok f) :
    ∃ given versions, Written scope l.awaited? args given versions ∧
      f.given = l.heard ++ given ∧ f.versions = l.versions ++ versions := by
  induction args generalizing l with
  | nil =>
    obtain ⟨hw, rfl⟩ := settle_ok h
    rw [hw]
    exact ⟨[], [], .nothing, (List.append_nil _).symm, (List.append_nil _).symm⟩
  | cons s args ih =>
    obtain ⟨m, hm, h⟩ := readOn_cons h
    have hs := next_stepped ht hm
    by_cases ht' : m.trailing = false
    · obtain ⟨given, versions, hw, hg, hv⟩ := ih ht' h
      obtain ⟨given', versions', hw', hg', hv'⟩ := written_of_stepped hs ht' hw
      exact ⟨given', versions', hw', hg.trans hg', hv.trans hv'⟩
    -- two dashes alone: the rest is no longer read argument by argument
    · cases hs with
      | options _ _ ht'' _ _ _ | announced _ _ ht'' _ _ _ | value _ _ ht'' _ _ _
      | version _ _ ht'' _ _ _ => exact absurd ht'' ht'
      | separator hs hl =>
        subst hl
        obtain ⟨hw, hscope, hg, hv⟩ := readOn_of_trailing rfl h
        have hw : l.awaited? = none := hw
        rw [hw]
        exact ⟨[], args, .separator hs hscope, hg.trans (List.append_nil _).symm, hv⟩

theorem read_written {scope : Scope} {args : List String} {l : Level}
    (h : read scope args = .ok l) : Written scope none args l.given l.versions := by
  obtain ⟨given, versions, hw, hg, hv⟩ := readOn_written (l := {}) rfl h
  rw [hg, hv]
  exact hw

end Level

/-! ## One way of reading -/

/-- What may stand after the arguments of a level: nothing, or one that has no role in a level
without versions. -/
def Ends (scope : Scope) (rest : List String) : Prop :=
  ∀ s ∈ rest.head?, scope ≠ .selection ∧ role? scope s = none

theorem ends_nil (scope : Scope) : Ends scope [] := by
  intro s hs
  cases hs

/-- After two dashes alone a selection takes all that is left, and nothing else takes any of it. -/
theorem versions_unique {scope : Scope} {versions versions' rest rest' : List String}
    (hv : scope = .selection ∨ versions = []) (hv' : scope = .selection ∨ versions' = [])
    (hr : Ends scope rest) (hr' : Ends scope rest') (he : versions ++ rest = versions' ++ rest') :
    versions = versions' := by
  by_cases hs : scope = .selection
  · have hn : ∀ rest, Ends scope rest → rest = [] := by
      intro rest h
      cases rest with
      | nil => rfl
      | cons s rest => exact absurd hs (h s rfl).1
    rw [hn rest hr, hn rest' hr', List.append_nil, List.append_nil] at he
    exact he
  · rcases hv with hv | rfl
    · exact absurd hv hs
    · rcases hv' with hv' | rfl
      · exact absurd hv' hs
      · rfl

/-- Arguments show by themselves where their level ends and what they give. -/
theorem written_unique {scope : Scope} {w : Option Opt} {args args' rest rest' : List String}
    {given given' : List (Opt × String)} {versions versions' : List String}
    (h : Written scope w args given versions) (h' : Written scope w args' given' versions')
    (hr : Ends scope rest) (hr' : Ends scope rest') (he : args ++ rest = args' ++ rest') :
    args = args' ∧ given = given' ∧ versions = versions' := by
  -- the first argument has one role, or none where the level ends, so both go on alike
  induction h generalizing args' given' versions' with
  | nothing =>
    cases h' with
    | nothing => exact ⟨rfl, rfl, rfl⟩
    | options hs' _ | announced hs' _ | version hs' _ | separator hs' _ =>
      subst he
      cases hs'.symm.trans (hr _ rfl).2
  | options hs h ih =>
    cases h' with
    | nothing =>
      subst he
      cases hs.symm.trans (hr' _ rfl).2
    | options hs' h' =>
      obtain ⟨rfl, ha⟩ := List.cons.inj he
      cases hs.symm.trans hs'
      obtain ⟨rfl, rfl, rfl⟩ := ih h' ha
      exact ⟨rfl, rfl, rfl⟩
    | announced hs' _ | version hs' _ | separator hs' _ =>
      obtain ⟨rfl, ha⟩ := List.cons.inj he
      cases hs.symm.trans hs'
  | announced hs h ih =>
    cases h' with
    | nothing =>
      subst he
      cases hs.symm.trans (hr' _ rfl).2
    | announced hs' h' =>
      obtain ⟨rfl, ha⟩ := List.cons.inj he
      cases hs.symm.trans hs'
      obtain ⟨rfl, rfl, rfl⟩ := ih h' ha
      exact ⟨rfl, rfl, rfl⟩
    | options hs' _ | version hs' _ | separator hs' _ =>
      obtain ⟨rfl, ha⟩ := List.cons.inj he
      cases hs.symm.trans hs'
  | value hs h ih =>
    cases h' with
    | value hs' h' =>
      obtain ⟨rfl, ha⟩ := List.cons.inj he
      obtain ⟨rfl, rfl, rfl⟩ := ih h' ha
      exact ⟨rfl, rfl, rfl⟩
  | version hs h ih =>
    cases h' with
    | nothing =>
      subst he
      cases hs.symm.trans (hr' _ rfl).2
    | version hs' h' =>
      obtain ⟨rfl, ha⟩ := List.cons.inj he
      obtain ⟨rfl, rfl, rfl⟩ := ih h' ha
      exact ⟨rfl, rfl, rfl⟩
    | options hs' _ | announced hs' _ | separator hs' _ =>
      obtain ⟨rfl, ha⟩ := List.cons.inj he
      cases hs.symm.trans hs'
  | separator hs hv =>
    cases h' with
    | nothing =>
      subst he
      cases hs.symm.trans (hr' _ rfl).2
    | separator hs' hv' =>
      obtain ⟨rfl, ha⟩ := List.cons.inj he
      obtain rfl := versions_unique hv hv' hr hr' ha
      exact ⟨rfl, rfl, rfl⟩
    | options hs' _ | announced hs' _ | version hs' _ =>
      obtain ⟨rfl, ha⟩ := List.cons.inj he
      cases hs.symm.trans hs'

end AppVersions.CommandLine
