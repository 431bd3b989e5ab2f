-- The laws of what is accepted: arguments that give options which fit together are read to the end,
-- and the level holds just what they give.
import AppVersions.Proofs.CommandLine.Invocation

namespace AppVersions.CommandLine

/-- Options that may be given together on one side of the command line. -/
structure Fits (given : List (Opt × String)) : Prop where
  no_help : ∀ p ∈ given, p.1 ≠ .help
  accepted : ∀ p ∈ given, p.1.accepts p.2 = true
  not_twice : ∀ o, o.repeats = false → (occurrences given o).length ≤ 1

theorem fits_of_append {given more : List (Opt × String)} (h : Fits (given ++ more)) :
    Fits given := by
  obtain ⟨hh, ha, ht⟩ := h
  refine ⟨fun p hp => hh p (List.mem_append_left _ hp),
    fun p hp => ha p (List.mem_append_left _ hp), ?_⟩
  intro o ho
  have := ht o ho
  rw [occurrences_append, List.length_append] at this
  omega

/-! ## Roles -/

/-- How an argument comes to its role. -/
inductive RoleOf (scope : Scope) (s : String) : Role → Prop
  | separator (ht : Token.ofString s = .separator) : RoleOf scope s .separator
  | version (ht : Token.ofString s = .plain) (hs : scope = .selection) : RoleOf scope s .version
  | letters {cs : List Char} {os : List Opt} (ht : Token.ofString s = .short cs)
      (hos : cs.mapM scope.lettered? = some os) : RoleOf scope s (.options (os.map (·, "")))
  | flag {name : String} {o : Opt} (ht : Token.ofString s = .long name none)
      (ho : scope.named? name = some o) (hk : o.takes = .nothing) :
      RoleOf scope s (.options [(o, "")])
  | valued {name value : String} {o : Opt} (ht : Token.ofString s = .long name (some value))
      (ho : scope.named? name = some o) (hk : o.takes ≠ .nothing) :
      RoleOf scope s (.options [(o, value)])
  | announced {name : String} {o : Opt} (ht : Token.ofString s = .long name none)
      (ho : scope.named? name = some o) (hk : o.takes ≠ .nothing) :
      RoleOf scope s (.announcement o)

theorem roleOf_of_role {scope : Scope} {s : String} {r : Role} (h : role? scope s = some r) :
    RoleOf scope s r := by
  unfold role? at h
  split at h
  · rename_i hc
    cases h
    exact .separator hc
  · rename_i hc
    split at h
    · rename_i hs
      cases h
      exact .version hc hs
    · cases h
  · rename_i cs hc
    obtain ⟨os, hos, he⟩ := Option.map_eq_some_iff.mp h
    cases he
    exact .letters hc hos
  · rename_i name value hc
    obtain ⟨o, ho, h⟩ := Option.bind_eq_some_iff.mp h
    cases hk : o.takes with
    | nothing =>
      rw [hk] at h
      cases value with
      | none =>
        cases h
        exact .flag hc ho hk
      | some value => cases h
    | text | path | truth =>
      rw [hk] at h
      cases value with
      | none =>
        cases h
        exact .announced hc ho (by simp [hk])
      | some value =>
        cases h
        exact .valued hc ho (by simp [hk])

theorem separator_of_role {scope : Scope} {s : String} (h : role? scope s = some .separator) :
    s = "--" := by
  cases roleOf_of_role h with
  | separator hc =>
    unfold Token.ofString Token.ofChars at hc
    split at hc
    · rename_i hs
      exact String.toList_injective hs
    all_goals cases hc

namespace Level

/-! ## Options -/

theorem admits_of_fits {l : Level} {o : Opt} {value : String}
    (h : Fits (l.given ++ [(o, value)])) : l.Admits o value := by
  have hm : (o, value) ∈ l.given ++ [(o, value)] := by simp
  refine ⟨h.no_help _ hm, ?_, h.accepted _ hm⟩
  cases hr : o.repeats with
  | true => exact .inl rfl
  | false =>
    have ht := h.not_twice o hr
    have hone : (occurrences [(o, value)] o).length = 1 := by simp [occurrences]
    have hl : l.values o = occurrences l.given o := rfl
    rw [occurrences_append, List.length_append, hone] at ht
    rw [hl]
    exact .inr (List.eq_nil_of_length_eq_zero (by omega))

theorem settle_of_fits {l : Level} (hw : l.awaited? = none) (h : Fits l.heard) :
    l.settle = .ok { l with given := l.heard, pending := none } := by
  obtain ⟨given, versions, _ | ⟨o, _ | value⟩, trailing⟩ := l
  · rfl
  · cases hw
  · exact add_eq_ok_iff.mpr ⟨admits_of_fits h, rfl⟩

theorem give_of_fits {l : Level} {o : Opt} {value : String} (hw : l.awaited? = none)
    (h : Fits (l.heard ++ [(o, value)])) :
    l.give o value = .ok { l with given := l.heard ++ [(o, value)], pending := none } := by
  unfold give
  rw [settle_of_fits hw (fits_of_append h)]
  exact add_eq_ok_iff.mpr ⟨admits_of_fits h, rfl⟩

theorem await_of_fits {l : Level} {o : Opt} (hw : l.awaited? = none) (h : Fits l.heard) :
    l.await o = .ok { l with given := l.heard, pending := some ⟨o, none⟩ } := by
  unfold await
  rw [settle_of_fits hw h]
  rfl

/-! ## One argument -/

/-- `m` has come after `l`: options and versions were added, and `w` waits for its value. -/
structure Follows (l m : Level) (w : Option Opt) (items : List (Opt × String))
    (versions : List String) : Prop where
  awaited : m.awaited? = w
  heard : m.heard = l.heard ++ items
  versions : m.versions = l.versions ++ versions

theorem follows_trans {l m f : Level} {w w' : Option Opt} {items items' : List (Opt × String)}
    {versions versions' : List String} (h : l.Follows m w items versions)
    (h' : m.Follows f w' items' versions') :
    l.Follows f w' (items ++ items') (versions ++ versions') := by
  refine ⟨h'.awaited, ?_, ?_⟩
  · rw [h'.heard, h.heard, List.append_assoc]
  · rw [h'.versions, h.versions, List.append_assoc]

theorem letters_of_fits {scope : Scope} {cs : List Char} {os : List Opt} {l : Level}
    (hos : cs.mapM scope.lettered? = some os) (hw : l.awaited? = none)
    (h : Fits (l.heard ++ os.map (·, ""))) :
    ∃ m, cs.foldlM (letter scope) l = .ok m ∧ m.trailing = l.trailing ∧
      l.Follows m none (os.map (·, "")) [] := by
  induction cs generalizing l os with
  | nil =>
    cases hos
    exact ⟨l, rfl, rfl, hw, (List.append_nil _).symm, (List.append_nil _).symm⟩
  | cons c cs ih =>
    rw [List.mapM_cons] at hos
    obtain ⟨o, ho, hos⟩ := Option.bind_eq_some_iff.mp hos
    obtain ⟨os, hos', he⟩ := Option.bind_eq_some_iff.mp hos
    cases he
    rw [List.map_cons, ← List.singleton_append, ← List.append_assoc] at h
    have hg := give_of_fits hw (fits_of_append h)
    obtain ⟨m, hm, ht, hf⟩ :=
      ih (l := ⟨l.heard ++ [(o, "")], l.versions, none, l.trailing⟩) hos' rfl h
    refine ⟨m, ?_, ht, hf.awaited, hf.heard.trans (List.append_assoc _ [(o, "")] _), hf.versions⟩
    rw [List.foldlM_cons]
    refine bind_eq_ok_iff.mpr ⟨_, ?_, hm⟩
    unfold letter
    rw [ho]
    exact hg

theorem next_of_separator {scope : Scope} {l : Level} {s : String}
    (hs : role? scope s = some .separator) (ht : l.trailing = false) :
    l.next scope s = .ok { l with trailing := true } := by
  cases roleOf_of_role hs with
  | separator hc =>
    unfold next
    rw [if_neg (by simp [ht]), hc]

theorem next_of_short {scope : Scope} {l : Level} {s : String} {cs : List Char}
    (hc : Token.ofString s = .short cs) (ht : l.trailing = false) :
    l.next scope s = cs.foldlM (letter scope) l := by
  unfold next
  rw [if_neg (by simp [ht]), hc]

theorem next_of_long {scope : Scope} {l : Level} {s name : String} {value : Option String}
    (hc : Token.ofString s = .long name value) (ht : l.trailing = false) :
    l.next scope s = l.long scope name value := by
  unfold next
  rw [if_neg (by simp [ht]), hc]

theorem long_of_flag {scope : Scope} {name : String} {o : Opt} (ho : scope.named? name = some o)
    (hk : o.takes = .nothing) (l : Level) : l.long scope name none = l.give o "" := by
  simp only [long, ho, hk]

theorem long_of_value {scope : Scope} {name : String} {o : Opt} (ho : scope.named? name = some o)
    (hk : o.takes ≠ .nothing) (l : Level) (value : String) :
    l.long scope name (some value) = l.give o value := by
  cases hk' : o.takes with
  | nothing => exact absurd hk' hk
  | text | path | truth => simp only [long, ho, hk']

theorem long_of_announcement {scope : Scope} {name : String} {o : Opt}
    (ho : scope.named? name = some o) (hk : o.takes ≠ .nothing) (l : Level) :
    l.long scope name none = l.await o := by
  cases hk' : o.takes with
  | nothing => exact absurd hk' hk
  | text | path | truth => simp only [long, ho, hk']

theorem next_of_options {scope : Scope} {l : Level} {s : String} {items : List (Opt × String)}
    (hs : role? scope s = some (.options items)) (ht : l.trailing = false)
    (hw : l.awaited? = none) (h : Fits (l.heard ++ items)) :
    ∃ m, l.next scope s = .ok m ∧ m.trailing = false ∧ l.Follows m none items [] := by
  cases roleOf_of_role hs with
  | letters hc hos =>
    obtain ⟨m, hm, ht', hf⟩ := letters_of_fits hos hw h
    exact ⟨m, (next_of_short hc ht).trans hm, ht'.trans ht, hf⟩
  | flag hc ho hk =>
    rw [next_of_long hc ht, long_of_flag ho hk]
    exact ⟨_, give_of_fits hw h, ht, rfl, rfl, (List.append_nil _).symm⟩
  | valued hc ho hk =>
    rw [next_of_long hc ht, long_of_value ho hk]
    exact ⟨_, give_of_fits hw h, ht, rfl, rfl, (List.append_nil _).symm⟩

theorem next_of_announcement {scope : Scope} {l : Level} {s : String} {o : Opt}
    (hs : role? scope s = some (.announcement o)) (ht : l.trailing = false)
    (hw : l.awaited? = none) (h : Fits l.heard) :
    ∃ m, l.next scope s = .ok m ∧ m.trailing = false ∧ l.Follows m (some o) [] [] := by
  cases roleOf_of_role hs with
  | announced hc ho hk =>
    rw [next_of_long hc ht, long_of_announcement ho hk]
    exact ⟨_, await_of_fits hw h, ht, rfl, (List.append_nil _).symm, (List.append_nil _).symm⟩

theorem next_of_value (scope : Scope) {l : Level} {s : String} {o : Opt}
    (hs : Token.ofString s = .plain) (ht : l.trailing = false) (hw : l.awaited? = some o) :
    ∃ m, l.next scope s = .ok m ∧ m.trailing = false ∧ l.Follows m none [(o, s)] [] := by
  obtain ⟨given, versions, _ | ⟨o', _ | value⟩, trailing⟩ := l
  · cases hw
  · cases hw
    cases ht
    refine ⟨⟨given, versions, some ⟨o, some s⟩, false⟩, ?_, rfl, rfl, rfl,
      (List.append_nil _).symm⟩
    unfold next
    rw [hs]
    rfl
  · cases hw

theorem positional_of_fits {l : Level} (s : String) (hw : l.awaited? = none) (h : Fits l.heard) :
    l.positional .selection s =
      .ok { l with given := l.heard, pending := none, versions := l.versions ++ [s] } := by
  unfold positional
  dsimp only
  rw [settle_of_fits hw h]
  rfl

theorem next_of_version {scope : Scope} {l : Level} {s : String}
    (hs : role? scope s = some .version) (ht : l.trailing = false) (hw : l.awaited? = none)
    (h : Fits l.heard) :
    ∃ m, l.next scope s = .ok m ∧ m.trailing = false ∧ l.Follows m none [] [s] := by
  cases roleOf_of_role hs with
  | version hc hsel =>
    subst hsel
    have hn : l.next .selection s = l.positional .selection s := by
      unfold next
      rw [if_neg (by simp [ht]), hc]
      dsimp only
      split
      · rename_i o hpend
        unfold awaited? at hw
        rw [hpend] at hw
        cases hw
      · rfl
    exact ⟨_, hn.trans (positional_of_fits s hw h), ht, rfl, (List.append_nil _).symm, rfl⟩

/-! ## All arguments -/

/-- After two dashes alone a selection takes all that is left. -/
theorem foldlM_of_trailing {l : Level} (ht : l.trailing = true) (hw : l.awaited? = none)
    (h : Fits l.heard) (args : List String) :
    ∃ m, args.foldlM (next .selection) l = .ok m ∧ l.Follows m none [] args := by
  induction args generalizing l with
  | nil => exact ⟨l, rfl, hw, (List.append_nil _).symm, (List.append_nil _).symm⟩
  | cons s args ih =>
    have hn : l.next .selection s = l.positional .selection s := by
      unfold next
      rw [if_pos ht]
    obtain ⟨m, hm, hf⟩ := ih (l := ⟨l.heard, l.versions ++ [s], none, l.trailing⟩) ht rfl h
    refine ⟨m, ?_, hf.awaited, hf.heard, hf.versions.trans (List.append_assoc _ [s] _)⟩
    rw [List.foldlM_cons, hn]
    exact bind_eq_ok_iff.mpr ⟨_, positional_of_fits s hw h, hm⟩

/-- What is written is read, if the options fit together. -/
theorem foldlM_of_written {scope : Scope} {w : Option Opt} {args versions : List String}
    {given : List (Opt × String)} (h : Written scope w args given versions) {l : Level}
    (ht : l.trailing = false) (hw : l.awaited? = w) (hf : Fits (l.heard ++ given)) :
    ∃ m, args.foldlM (next scope) l = .ok m ∧ l.Follows m none given versions := by
  -- one case for each role of the first argument; the level after it reads on
  have step : ∀ {l m : Level} {s : String} {w : Option Opt} {items items' : List (Opt × String)}
      {versions versions' args : List String},
      l.next scope s = .ok m → l.Follows m w items versions →
      (∃ f, args.foldlM (next scope) m = .ok f ∧ m.Follows f none items' versions') →
      ∃ f, (s :: args).foldlM (next scope) l = .ok f ∧
        l.Follows f none (items ++ items') (versions ++ versions') := by
    intro l m s w items items' versions versions' args hn h ⟨f, hf, h'⟩
    refine ⟨f, ?_, follows_trans h h'⟩
    rw [List.foldlM_cons]
    exact bind_eq_ok_iff.mpr ⟨m, hn, hf⟩
  induction h generalizing l with
  | nothing => exact ⟨l, rfl, hw, (List.append_nil _).symm, (List.append_nil _).symm⟩
  | options hs _ ih =>
    rw [← List.append_assoc] at hf
    obtain ⟨m, hn, ht', h⟩ := next_of_options hs ht hw (fits_of_append hf)
    rw [← h.heard] at hf
    exact step hn h (ih ht' h.awaited hf)
  | announced hs _ ih =>
    obtain ⟨m, hn, ht', h⟩ := next_of_announcement hs ht hw (fits_of_append hf)
    have hh : m.heard = l.heard := h.heard.trans (List.append_nil _)
    rw [← hh] at hf
    exact step hn h (ih ht' h.awaited hf)
  | value hs _ ih =>
    obtain ⟨m, hn, ht', h⟩ := next_of_value scope hs ht hw
    rw [← List.singleton_append, ← List.append_assoc, ← h.heard] at hf
    exact step hn h (ih ht' h.awaited hf)
  | version hs _ ih =>
    obtain ⟨m, hn, ht', h⟩ := next_of_version hs ht hw (fits_of_append hf)
    have hh : m.heard = l.heard := h.heard.trans (List.append_nil _)
    rw [← hh] at hf
    exact step hn h (ih ht' h.awaited hf)
  | separator hs hv =>
    have hn := next_of_separator hs ht
    rw [List.append_nil] at hf
    have hl : l.Follows { l with trailing := true } none [] [] :=
      ⟨hw, (List.append_nil _).symm, (List.append_nil _).symm⟩
    rcases hv with rfl | rfl
    · exact step hn hl (foldlM_of_trailing (l := { l with trailing := true }) rfl hw hf _)
    · exact step hn hl ⟨_, rfl, hw, (List.append_nil _).symm, (List.append_nil _).symm⟩

theorem read_of_written {scope : Scope} {args versions : List String} {given : List (Opt × String)}
    (h : Written scope none args given versions) (hf : Fits given) :
    ∃ l, read scope args = .ok l ∧ l.given = given ∧ l.versions = versions := by
  obtain ⟨m, hm, hl⟩ := foldlM_of_written h (l := {}) rfl rfl hf
  have hh : m.heard = given := hl.heard
  rw [← hh] at hf
  exact ⟨_, bind_eq_ok_iff.mpr ⟨m, hm, settle_of_fits hl.awaited hf⟩, hh, hl.versions⟩

end Level

/-! ## Whole lines -/

theorem readAfter_of_written {c : Subcommand} {args versions : List String}
    {given : List (Opt × String)} (h : Written c.scope none args given versions) (hf : Fits given)
    (hv : c.scope = .selection → versions ≠ []) :
    ∃ l, readAfter c args = .ok l ∧ l.given = given ∧ l.versions = versions := by
  obtain ⟨l, hl, hg, rfl⟩ := Level.read_of_written h hf
  refine ⟨l, bind_eq_ok_iff.mpr ⟨l, hl, ?_⟩, hg, rfl⟩
  dsimp only
  rw [if_neg fun hn => hv hn.1 hn.2]
  rfl

/-- An argument with a role before the subcommand is not taken for one. -/
theorem readFrom_of_role {l : Level} {s : String} (ht : l.trailing = false)
    (h : l.awaited? ≠ none ∨ role? .root s ≠ none) (args : List String) :
    readFrom l (s :: args) = l.next .root s >>= (readFrom · args) := by
  rw [readFrom.eq_def]
  dsimp only
  by_cases hw : l.awaited? = none
  · have hs : role? .root s ≠ none := h.resolve_left (fun hn => hn hw)
    have hhelp : s ≠ helpName := by
      rintro rfl
      exact hs (by decide)
    have hname : Subcommand.ofName? s = none := by
      cases hc : Subcommand.ofName? s with
      | none => rfl
      | some c =>
        rw [eq_name_of_ofName? hc] at hs
        exact absurd (role_of_name c) hs
    rw [if_neg (by simp [ht, awaitsValue_eq, hw]), if_neg hhelp, hname]
  · rw [if_pos (by simp [awaitsValue_eq, Option.isSome_iff_ne_none.mpr hw])]

/-- What is written before the subcommand is read, and the reading goes on with what follows it. -/
theorem readFrom_of_written {w : Option Opt} {args versions : List String}
    {given : List (Opt × String)} (h : Written .root w args given versions) (hn : "--" ∉ args)
    {l : Level} (ht : l.trailing = false) (hw : l.awaited? = w) (hf : Fits (l.heard ++ given)) :
    ∃ m, (∀ rest, readFrom l (args ++ rest) = readFrom m rest) ∧ m.trailing = false ∧
      m.awaited? = none ∧ m.heard = l.heard ++ given := by
  have step : ∀ {l m : Level} {s : String} {w : Option Opt} {items items' : List (Opt × String)}
      {args : List String}, l.trailing = false → (l.awaited? ≠ none ∨ role? .root s ≠ none) →
      l.next .root s = .ok m → l.Follows m w items [] →
      (∃ f, (∀ rest, readFrom m (args ++ rest) = readFrom f rest) ∧ f.trailing = false ∧
        f.awaited? = none ∧ f.heard = m.heard ++ items') →
      ∃ f, (∀ rest, readFrom l (s :: args ++ rest) = readFrom f rest) ∧ f.trailing = false ∧
        f.awaited? = none ∧ f.heard = l.heard ++ (items ++ items') := by
    intro l m s w items items' args ht hr hn h ⟨f, hf, ht', hw', hh⟩
    refine ⟨f, ?_, ht', hw', ?_⟩
    · intro rest
      rw [List.cons_append, readFrom_of_role ht hr, hn]
      exact hf rest
    · rw [hh, h.heard, List.append_assoc]
  induction h generalizing l with
  | nothing => exact ⟨l, fun _ => rfl, ht, hw, (List.append_nil _).symm⟩
  | options hs _ ih =>
    rw [← List.append_assoc] at hf
    obtain ⟨m, hm, ht', h⟩ := Level.next_of_options hs ht hw (fits_of_append hf)
    rw [← h.heard] at hf
    exact step ht (.inr (by simp [hs])) hm h
      (ih (fun hc => hn (List.mem_cons_of_mem _ hc)) ht' h.awaited hf)
  | announced hs _ ih =>
    obtain ⟨m, hm, ht', h⟩ := Level.next_of_announcement hs ht hw (fits_of_append hf)
    have hh : m.heard = l.heard := h.heard.trans (List.append_nil _)
    rw [← hh] at hf
    exact step ht (.inr (by simp [hs])) hm h
      (ih (fun hc => hn (List.mem_cons_of_mem _ hc)) ht' h.awaited hf)
  | value hs _ ih =>
    obtain ⟨m, hm, ht', h⟩ := Level.next_of_value .root hs ht hw
    rw [← List.singleton_append, ← List.append_assoc, ← h.heard] at hf
    exact step ht (.inl (by simp [hw])) hm h
      (ih (fun hc => hn (List.mem_cons_of_mem _ hc)) ht' h.awaited hf)
  | version hs _ _ => cases selection_of_version hs
  | separator hs _ =>
    rw [separator_of_role hs] at hn
    exact absurd List.mem_cons_self hn

/-- A line whose options fit together on either side is read to the end. -/
theorem readFrom_of_line {c : Subcommand} {front back versions : List String}
    {before after : List (Opt × String)} (hf : Written .root none front before [])
    (hn : "--" ∉ front) (hb : Written c.scope none back after versions) (hbefore : Fits before)
    (hafter : Fits after) (hv : c.scope = .selection → versions ≠ []) :
    ∃ p, readFrom {} (front ++ c.name :: back) = .ok p ∧ p.subcommand = c ∧
      p.before.given = before ∧ p.after.given = after ∧ p.after.versions = versions := by
  obtain ⟨m, hm, ht, hw, hh⟩ := readFrom_of_written hf hn (l := {}) rfl rfl hbefore
  obtain ⟨l, hl, hg, hvs⟩ := readAfter_of_written hb hafter hv
  have hh : m.heard = before := hh
  rw [← hh] at hbefore
  refine ⟨⟨{ m with given := m.heard, pending := none }, c, l⟩, ?_, rfl, hh, hg, hvs⟩
  have hname : Subcommand.ofName? c.name = some c := by cases c <;> decide
  have hhelp : c.name ≠ helpName := by cases c <;> decide
  rw [hm]
  unfold readFrom
  rw [if_neg (by simp [ht, awaitsValue_eq, hw]), if_neg hhelp, hname]
  exact bind_eq_ok_iff.mpr ⟨l, hl, bind_eq_ok_iff.mpr ⟨_, Level.settle_of_fits hw hbefore, rfl⟩⟩

end AppVersions.CommandLine
