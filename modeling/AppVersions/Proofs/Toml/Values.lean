-- All ways to write a key of TOML, and its value when that is a string or a list of strings. Each
-- is read as what it spells, whatever stands between the elements of a list.
import AppVersions.Proofs.Notations
import AppVersions.Proofs.Toml.Layout
import AppVersions.Proofs.Toml.Quoted

namespace AppVersions.Toml

open AppVersions.Reader (Collects StopsAt bind_ok stopsAt_cons)

/-! ## Keys -/

/-- The ways to write a key: bare, between double quotes, or as it is between single ones. -/
inductive KeySpelled : String → List Char → Prop
  | bare {s : String} (hn : s.toList ≠ []) (h : ∀ c ∈ s.toList, isBareChar c = true) :
      KeySpelled s s.toList
  | quoted {s : String} {cs : List Char} (h : StringSpelled s cs) : KeySpelled s cs
  | literal {s : String} (hq : '\x27' ∉ s.toList) (h : ∀ c ∈ s.toList, isVisible c = true) :
      KeySpelled s ('\x27' :: (s.toList ++ ['\x27']))

/-- A character that a key may start with. -/
def startsKey (c : Char) : Bool := isBareChar c || c == '"' || c == '\x27'

theorem exists_of_keySpelled {s : String} {cs : List Char} (h : KeySpelled s cs) :
    ∃ c more, cs = c :: more ∧ startsKey c = true := by
  cases h with
  | bare hn h =>
    obtain ⟨c, more, hc⟩ := List.exists_cons_of_ne_nil hn
    refine ⟨c, more, hc, ?_⟩
    rw [hc] at h
    simp [startsKey, h c List.mem_cons_self]
  | quoted h =>
    cases h
    exact ⟨_, _, rfl, rfl⟩
  | literal _ _ => exact ⟨_, _, rfl, rfl⟩

theorem ne_of_startsKey {c d : Char} (hc : startsKey c = true) (hd : startsKey d = false) :
    c ≠ d := by
  rintro rfl
  rw [hc] at hd
  cases hd

theorem not_isBlank_of_startsKey {c : Char} (h : startsKey c = true) : isBlank c = false := by
  have hs : c ≠ ' ' := ne_of_startsKey h rfl
  have ht : c ≠ '\t' := ne_of_startsKey h rfl
  simp [isBlank, hs, ht]

theorem bareKey_of_run {s : String} (hn : s.toList ≠ []) (h : ∀ c ∈ s.toList, isBareChar c = true)
    {rest : List Char} (hr : StopsAt isBareChar rest) :
    bareKey (s.toList ++ rest) = .ok (s, rest) := by
  unfold bareKey
  rw [bind_ok (Reader.takeWhile_apply_of_run h hr), if_neg hn, String.ofList_toList]
  rfl

theorem literalString_of_run {s : String} (hq : '\x27' ∉ s.toList)
    (h : ∀ c ∈ s.toList, isVisible c = true) (rest : List Char) :
    literalString ('\x27' :: (s.toList ++ '\x27' :: rest)) = .ok (s, rest) := by
  have hrun : ∀ c ∈ s.toList, (decide (c ≠ '\x27') && isVisible c) = true := by
    intro c hc
    have hne : c ≠ '\x27' := fun he => hq (he ▸ hc)
    simp [hne, h c hc]
  have hopen : literal ['\x27'] ('\x27' :: (s.toList ++ '\x27' :: rest)) =
      .ok ((), s.toList ++ '\x27' :: rest) := rfl
  have hclose : literal ['\x27'] ('\x27' :: rest) = .ok ((), rest) := rfl
  unfold literalString
  rw [bind_ok hopen, bind_ok (Reader.takeWhile_apply_of_run hrun (stopsAt_cons rfl rest)),
    bind_ok hclose, String.ofList_toList]
  rfl

theorem keyName_of_spelled {s : String} {cs rest : List Char} (h : KeySpelled s cs)
    (hr : StopsAt isBareChar rest) : keyName (cs ++ rest) = .ok (s, rest) := by
  unfold keyName
  rw [bind_ok (Reader.peek_apply _)]
  cases h with
  | bare hn h =>
    obtain ⟨c, more, hc⟩ := List.exists_cons_of_ne_nil hn
    have hbare : isBareChar c = true := h c (hc ▸ List.mem_cons_self)
    refine Eq.trans (congrFun (?_ : _ = bareKey) _) (bareKey_of_run hn h hr)
    rw [hc, List.cons_append, List.head?_cons]
    split
    · rename_i hd
      cases hd
      cases hbare
    · rename_i hd
      cases hd
      cases hbare
    · rfl
  | quoted h =>
    have hs := basicString_of_spelled h rest
    cases h
    exact hs
  | literal hq h =>
    rw [List.cons_append, List.append_assoc]
    exact literalString_of_run hq h rest

theorem spanned_of_ok {α : Type} {r : Read α} {cs rest : List Char} {a : α}
    (h : r cs = .ok (a, rest)) :
    spanned r cs = .ok ((⟨cs.length, rest.length⟩, a), rest) := by
  show (do
    let a ← r
    return (⟨cs.length, ← Reader.left⟩, a) : Read (Span × α)) cs = _
  rw [bind_ok h]
  rfl

theorem simpleKey_of_spelled {s : String} {cs rest : List Char} (h : KeySpelled s cs)
    (hr : StopsAt isBareChar rest) :
    ∃ span, simpleKey (cs ++ rest) = .ok (⟨s, span⟩, rest) :=
  ⟨_, bind_ok (spanned_of_ok (keyName_of_spelled h hr))⟩

/-- A key of one part is read up to the sign behind it. -/
theorem key_of_spelled {s : String} {cs bs : List Char} (h : KeySpelled s cs) (hb : Blanks bs)
    (rest : List Char) :
    ∃ span, key (cs ++ (bs ++ '=' :: rest)) = .ok ([⟨s, span⟩], '=' :: rest) := by
  have hr : StopsAt isBareChar (bs ++ '=' :: rest) :=
    hb.idle.stopsAt rfl (stopsAt_cons rfl rest)
  obtain ⟨span, hsimple⟩ := simpleKey_of_spelled h hr
  obtain ⟨c, more, rfl, hc⟩ := exists_of_keySpelled h
  have hfirst : keyPart true (c :: more ++ (bs ++ '=' :: rest)) =
      .ok (some ⟨s, span⟩, bs ++ '=' :: rest) := by
    unfold keyPart
    rw [List.cons_append, bind_ok (skipBlanks_of_stop (not_isBlank_of_startsKey hc) _), if_pos rfl]
    exact bind_ok hsimple
  have hsecond : keyPart false (bs ++ '=' :: rest) = .ok (none, '=' :: rest) := by
    unfold keyPart
    rw [bind_ok (skipBlanks_before hb rfl rest)]
    rfl
  have hparts : Collects keyPart true (c :: more ++ (bs ++ '=' :: rest)) [⟨s, span⟩]
      ('=' :: rest) :=
    .more hfirst (by simp only [List.length_append, List.length_cons]; omega) (.done hsecond)
  refine ⟨span, ?_⟩
  unfold key
  rw [bind_ok (Reader.collect_of_collects hparts ())]
  rfl

/-! ## Lists -/

/-- What stands in front of an element of a list: filler, and a comma unless it is the first. -/
inductive Separator : Bool → List Char → Prop
  | first {f : List Char} (h : Filler f) : Separator true f
  | next {f g : List Char} (h : Filler f) (hg : Filler g) : Separator false (f ++ ',' :: g)

/-- The rest of a list of strings, after its opening bracket or after an element. -/
inductive ElementsSpelled : Bool → List String → List Char → Prop
  | close {first : Bool} {f : List Char} (h : Filler f) : ElementsSpelled first [] (f ++ [']'])
  | comma {f g : List Char} (h : Filler f) (hg : Filler g) :
      ElementsSpelled false [] (f ++ ',' :: (g ++ [']']))
  | cons {first : Bool} {s : String} {ss : List String} {separator element text : List Char}
      (hs : Separator first separator) (he : StringSpelled s element)
      (hr : ElementsSpelled false ss text) :
      ElementsSpelled first (s :: ss) (separator ++ (element ++ text))

/-- No quote follows an element at once. -/
theorem stopsAt_quote_of_elements {ss : List String} {text : List Char}
    (h : ElementsSpelled false ss text) (rest : List Char) :
    StopsAt (· == '"') (text ++ rest) := by
  cases h with
  | close h =>
    rw [List.append_assoc]
    exact h.idle.stopsAt rfl (stopsAt_cons rfl rest)
  | comma h hg =>
    rw [List.append_assoc]
    exact h.idle.stopsAt rfl (stopsAt_cons rfl _)
  | cons hs he hr =>
    cases hs with | next h hg =>
    rw [List.append_assoc, List.append_assoc]
    exact h.idle.stopsAt rfl (stopsAt_cons rfl _)

theorem scalar_of_string {s : String} {cs rest : List Char} (h : StringSpelled s cs)
    (hr : StopsAt (· == '"') rest) : scalar (cs ++ rest) = .ok (.text s, rest) := by
  have hs := string_of_spelled h hr
  cases h
  show (do return .text (← string) : Read Scalar) _ = _
  rw [bind_ok hs]
  rfl

theorem plain_of_string {s : String} {cs rest : List Char} (h : StringSpelled s cs)
    (hr : StopsAt (· == '"') rest) :
    ∃ span, plain (cs ++ rest) = .ok (.scalar span (.text s), rest) :=
  ⟨_, bind_ok (spanned_of_ok (scalar_of_string h hr))⟩

/-- At any depth a string is read as a string. -/
theorem value_of_string {s : String} {cs rest : List Char} (h : StringSpelled s cs)
    (hr : StopsAt (· == '"') rest) (depth : Nat) :
    ∃ span, value depth (cs ++ rest) = .ok (.scalar span (.text s), rest) := by
  obtain ⟨span, hp⟩ := plain_of_string h hr
  refine ⟨span, ?_⟩
  cases depth with
  | zero => exact hp
  | succ depth =>
    cases h
    exact hp

section Elements

variable {read : Read Node} {first : Bool} {rest : List Char}

theorem element_of_close {f : List Char} (h : Filler f) :
    element read first (f ++ [']'] ++ rest) = .ok (none, ']' :: rest) := by
  unfold element
  rw [List.append_assoc, List.singleton_append, bind_ok (skipFiller_of_filler h (by decide) rest)]
  cases first <;> rfl

/-- After a comma a list goes on or is closed. -/
theorem element_behind_comma {f : List Char} (h : Filler f) (cs : List Char) :
    element read false (f ++ ',' :: cs) = (do
      skipFiller
      if (← Reader.peek) = some ']' then return none else return some (← read) :
        Read (Option Node)) cs := by
  unfold element
  rw [bind_ok (skipFiller_of_filler h (by decide) cs)]
  rfl

theorem element_of_comma {f g : List Char} (h : Filler f) (hg : Filler g) :
    element read false (f ++ ',' :: (g ++ [']']) ++ rest) = .ok (none, ']' :: rest) := by
  rw [List.append_assoc, List.cons_append, List.append_assoc, element_behind_comma h,
    List.singleton_append, bind_ok (skipFiller_of_filler hg (by decide) rest)]
  rfl

theorem element_of_separator {separator cs : List Char} {c : Char} (h : Separator first separator)
    (hc : c ∉ idleChars) (hn : c ≠ ']') {n : Node} (hv : read (c :: cs) = .ok (n, rest)) :
    element read first (separator ++ c :: cs) = .ok (some n, rest) := by
  have hhead : (c :: cs).head? ≠ some ']' := fun he => hn (Option.some.inj he)
  have hread : (do
      if (← Reader.peek) = some ']' then return none else return some (← read) :
        Read (Option Node)) (c :: cs) = .ok (some n, rest) := by
    rw [bind_ok (Reader.peek_apply _), if_neg hhead, bind_ok hv]
    rfl
  cases h with
  | first h =>
    unfold element
    rw [bind_ok (skipFiller_of_filler h hc cs), if_pos rfl]
    exact hread
  | next h hg =>
    rw [List.append_assoc, List.cons_append, element_behind_comma h,
      bind_ok (skipFiller_of_filler hg hc cs)]
    exact hread

end Elements

theorem collects_of_elements {first : Bool} {ss : List String} {cs : List Char}
    (h : ElementsSpelled first ss cs) (depth : Nat) (rest : List Char) :
    ∃ ns, Collects (element (value depth)) first (cs ++ rest) ns (']' :: rest) ∧
      List.Forall₂ Denotes ns (ss.map Json.Tree.text) := by
  induction h with
  | close h => exact ⟨[], .done (element_of_close h), .nil⟩
  | comma h hg => exact ⟨[], .done (element_of_comma h hg), .nil⟩
  | @cons first s ss separator piece text hs he hr ih =>
    obtain ⟨ns, hns, hd⟩ := ih
    obtain ⟨span, hv⟩ := value_of_string he (stopsAt_quote_of_elements hr rest) depth
    refine ⟨.scalar span (.text s) :: ns, ?_, .cons (.text span s) hd⟩
    rw [List.append_assoc, List.append_assoc]
    cases he
    refine .more (element_of_separator hs (by decide) (by decide) hv) ?_ hns
    simp only [List.length_append, List.length_cons]
    omega

/-! ## Values -/

/-- The ways to write a string or a list of strings. -/
inductive ValueSpelled : Json.Tree → List Char → Prop
  | text {s : String} {cs : List Char} (h : StringSpelled s cs) : ValueSpelled (.text s) cs
  | texts {ss : List String} {cs : List Char} (h : ElementsSpelled true ss cs) :
      ValueSpelled (.list (ss.map .text)) ('[' :: cs)

/-- Blanks before a value are not part of it. -/
theorem exists_of_valueSpelled {t : Json.Tree} {cs : List Char} (h : ValueSpelled t cs) :
    ∃ c more, cs = c :: more ∧ isBlank c = false := by
  cases h with
  | text h =>
    cases h
    exact ⟨_, _, rfl, rfl⟩
  | texts h => exact ⟨_, _, rfl, rfl⟩

/-- A value is read as what it spells wherever a list may stand. -/
theorem value_of_spelled {t : Json.Tree} {cs rest : List Char} (h : ValueSpelled t cs)
    (hr : StopsAt (· == '"') rest) {depth : Nat} (hd : 0 < depth) :
    ∃ n, value depth (cs ++ rest) = .ok (n, rest) ∧ Denotes n t := by
  cases h with
  | text h =>
    obtain ⟨span, hv⟩ := value_of_string h hr depth
    exact ⟨_, hv, .text span _⟩
  | @texts ss cs h =>
    obtain ⟨depth, rfl⟩ := Nat.exists_eq_succ_of_ne_zero (Nat.ne_of_gt hd)
    obtain ⟨ns, hns, hd⟩ := collects_of_elements h depth rest
    have hlist : (do
        literal ['[']
        elements (value depth) : Read (List Node)) ('[' :: (cs ++ rest)) = .ok (ns, rest) := by
      show elements (value depth) (cs ++ rest) = _
      unfold elements
      rw [bind_ok (Reader.collect_of_collects hns ())]
      rfl
    refine ⟨.array ⟨('[' :: (cs ++ rest)).length, rest.length⟩ ns, ?_, .array _ hd⟩
    show (do
      let found ← spanned (do
        literal ['[']
        elements (value depth))
      return .array found.1 found.2 : Read Node) ('[' :: (cs ++ rest)) = _
    rw [bind_ok (spanned_of_ok hlist)]
    rfl

/-! ## Assignments -/

/-- A key and its value, with blanks around the sign between them. -/
inductive AssignmentSpelled : String → Json.Tree → List Char → Prop
  | pair {k : String} {t : Json.Tree} {name before after value : List Char}
      (hk : KeySpelled k name) (hb : Blanks before) (ha : Blanks after)
      (hv : ValueSpelled t value) :
      AssignmentSpelled k t (name ++ (before ++ '=' :: (after ++ value)))

theorem assignment_of_spelled {k : String} {t : Json.Tree} {cs rest : List Char}
    (h : AssignmentSpelled k t cs) (hr : StopsAt (· == '"') rest) :
    ∃ span n, assignment (value maxDepth) (cs ++ rest) = .ok (([], ⟨k, span⟩, n), rest) ∧
      Denotes n t := by
  cases h with | @pair name before after v hk hb ha hv =>
  obtain ⟨n, hn, hd⟩ := value_of_spelled hv hr (by decide : 0 < maxDepth)
  obtain ⟨span, hkey⟩ := key_of_spelled hk hb (after ++ (v ++ rest))
  obtain ⟨c, more, rfl, hc⟩ := exists_of_valueSpelled hv
  have hsign : skipBlanks ('=' :: (after ++ (c :: more ++ rest))) = .ok ((), _) :=
    skipBlanks_of_stop rfl _
  have hequal : literal ['='] ('=' :: (after ++ (c :: more ++ rest))) =
      .ok ((), after ++ (c :: more ++ rest)) := rfl
  refine ⟨span, n, ?_, hd⟩
  unfold assignment
  simp only [List.append_assoc, List.cons_append] at hkey hsign hequal hn ⊢
  rw [bind_ok hkey, bind_ok hsign, bind_ok hequal, bind_ok (skipBlanks_before ha hc _), bind_ok hn]
  rfl

end AppVersions.Toml
