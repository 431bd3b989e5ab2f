-- The laws of UTF-8: what is written for a text is read as that text, and only the byte of a line
-- feed is read as one, so that bytes may be cut after line feeds before they are decoded.
import AppVersions.Host
import AppVersions.Text.Utf8
import Mathlib.Algebra.Group.Nat.Defs

namespace AppVersions.Text.Utf8

/-! ## Cuts -/

/-- What is decoded up to a line feed does not depend on what follows, nor the other way around. -/
theorem decodeFrom_append_lineFeed (q : State) (front back : List UInt8) :
    decodeFrom q (front ++ 0x0A :: back) = decodeFrom q front ++ '\n' :: decode back := by
  induction front generalizing q with
  | nil => exact decodeFrom_lineFeed q back
  | cons b front ih =>
    show (step q b).1 ++ decodeFrom _ (front ++ 0x0A :: back) = ((step q b).1 ++ _) ++ _
    rw [ih, List.append_assoc]

theorem decode_append_lineFeed (front back : List UInt8) :
    decode (front ++ 0x0A :: back) = decode front ++ '\n' :: decode back :=
  decodeFrom_append_lineFeed none front back

/-! ## Line feeds in what is decoded -/

/-- Whatever completes a character that was begun, it is no ASCII character. -/
def Begun.Wide (q : Begun) : Prop := 0x80 ≤ (q.value * 64 + (q.low - 0x80)) * 64 ^ q.owed

def State.Wide (q : State) : Prop := ∀ b ∈ q, b.Wide

theorem wide_none : State.Wide none := nofun

theorem ofNat_ne_lineFeed {n : Nat} (h : n ≠ 0x0A) : Char.ofNat n ≠ '\n' := by
  unfold Char.ofNat
  by_cases hn : n.isValidChar
  · rw [dif_pos hn]
    intro he
    exact h (congrArg Char.toNat he)
  · rw [dif_neg hn]
    decide

theorem not_mem_replacement : '\n' ∉ [replacement] := by decide

/-- What a first byte leaves to come is wide enough, and only the byte of a line feed is one. -/
theorem lead_wide (n : Nat) : (lead n).2.Wide ∧ (n ≠ 0x0A → '\n' ∉ (lead n).1) := by
  have hsome : ∀ q : Begun, q.Wide → State.Wide (some q) := by
    rintro q hq _ ⟨⟩
    exact hq
  unfold lead
  split
  · refine ⟨wide_none, fun hn hm => ?_⟩
    exact ofNat_ne_lineFeed hn (List.mem_singleton.mp hm).symm
  split
  · exact ⟨wide_none, fun _ => not_mem_replacement⟩
  -- the seven ways to begin a character
  iterate 7
    split
    · refine ⟨hsome _ ?_, fun _ => List.not_mem_nil⟩
      unfold Begun.Wide
      dsimp only
      omega
  · exact ⟨wide_none, fun _ => not_mem_replacement⟩

theorem step_wide {q : State} (hq : q.Wide) (b : UInt8) :
    (step q b).2.Wide ∧ (b ≠ 0x0A → '\n' ∉ (step q b).1) := by
  have hb : b ≠ 0x0A → b.toNat ≠ 0x0A := fun h he => h (UInt8.toNat_inj.mp he)
  obtain ⟨hlead, hnot⟩ := lead_wide b.toNat
  rcases q with _ | q
  · exact ⟨hlead, fun h => hnot (hb h)⟩
  · have hq : 0x80 ≤ (q.value * 64 + (q.low - 0x80)) * 64 ^ q.owed := hq q rfl
    unfold step
    dsimp only
    split
    · rename_i hn
      split
      · rename_i ho
        rw [ho] at hq
        refine ⟨nofun, fun _ hm => ?_⟩
        have hm := List.mem_singleton.mp hm
        refine ofNat_ne_lineFeed ?_ hm.symm
        omega
      · rename_i owed ho
        rw [ho] at hq
        refine ⟨?_, fun _ => List.not_mem_nil⟩
        rintro _ ⟨⟩
        show 0x80 ≤ ((q.value * 64 + (b.toNat - 0x80)) * 64 + (0x80 - 0x80)) * 64 ^ owed
        calc
          0x80 ≤ (q.value * 64 + (q.low - 0x80)) * 64 ^ (owed + 1) := hq
          _ = (q.value * 64 + (q.low - 0x80)) * 64 * 64 ^ owed := by
            rw [Nat.pow_succ', Nat.mul_assoc]
          _ ≤ ((q.value * 64 + (b.toNat - 0x80)) * 64 + (0x80 - 0x80)) * 64 ^ owed :=
            Nat.mul_le_mul_right _ (by omega)
    · refine ⟨hlead, fun h hm => ?_⟩
      rcases List.mem_cons.mp hm with hr | hm
      · exact absurd hr (by decide)
      · exact hnot (hb h) hm

/-- Without the byte of a line feed no line feed is decoded. -/
theorem lineFeed_not_mem_decodeFrom {q : State} (hq : q.Wide) {bs : List UInt8}
    (h : 0x0A ∉ bs) : '\n' ∉ decodeFrom q bs := by
  induction bs generalizing q with
  | nil =>
    rcases q with _ | q
    · exact List.not_mem_nil
    · exact not_mem_replacement
  | cons b bs ih =>
    have hb : b ≠ 0x0A := fun he => h (he ▸ List.mem_cons_self)
    have hbs : 0x0A ∉ bs := fun hm => h (List.mem_cons_of_mem b hm)
    obtain ⟨hnext, hnot⟩ := step_wide hq b
    intro hm
    rcases List.mem_append.mp hm with hm | hm
    · exact hnot hb hm
    · exact ih hnext hbs hm

theorem lineFeed_not_mem_decode {bs : List UInt8} (h : 0x0A ∉ bs) : '\n' ∉ decode bs :=
  lineFeed_not_mem_decodeFrom wide_none h

/-! ## Nothing is dropped -/

/-- A byte is a character or replaced, or begins a character. -/
theorem lead_answers (n : Nat) : (lead n).1 ≠ [] ∨ (lead n).2 ≠ none := by
  unfold lead
  grind

theorem decodeFrom_some_ne_nil (q : Begun) (bs : List UInt8) : decodeFrom (some q) bs ≠ [] := by
  induction bs generalizing q with
  | nil => exact List.cons_ne_nil _ _
  | cons b bs ih =>
    unfold decodeFrom step
    grind

theorem decode_eq_nil_iff {bs : List UInt8} : decode bs = [] ↔ bs = [] := by
  constructor
  · intro h
    cases bs with
    | nil => rfl
    | cons b bs =>
      have h : (lead b.toNat).1 ++ decodeFrom (lead b.toNat).2 bs = [] := h
      obtain ⟨hfirst, hrest⟩ := List.append_eq_nil_iff.mp h
      rcases hnext : (lead b.toNat).2 with _ | q
      · exact absurd hnext ((lead_answers b.toNat).resolve_left (absurd hfirst))
      · rw [hnext] at hrest
        exact absurd hrest (decodeFrom_some_ne_nil q bs)
  · rintro rfl
    rfl

/-! ## Texts -/

/-- The encoding of characters is the common one. -/
theorem encodeChar_eq (c : Char) : encodeChar c = String.utf8EncodeChar c := by
  have hc : c.toNat < 0x110000 := by
    unfold Char.toNat
    rcases c.valid with h | h <;> omega
  have hn : c.val.toNat = c.toNat := rfl
  unfold encodeChar String.utf8EncodeChar
  simp only [hn]
  grind

theorem bytes_eq (s : String) : bytes s = s.toUTF8.data.toList := by
  have hencode : encodeChar = String.utf8EncodeChar := funext encodeChar_eq
  unfold bytes encode
  rw [hencode, String.toUTF8, ← String.utf8Encode_toList, List.utf8Encode, List.data_toByteArray]

theorem toNat_ofNat {n : Nat} (h : n < 256) : (UInt8.ofNat n).toNat = n := by
  rw [UInt8.toNat_ofNat']
  exact Nat.mod_eq_of_lt h

theorem decode_cons {n : Nat} (h : n < 256) (bs : List UInt8) :
    decode (.ofNat n :: bs) = (lead n).1 ++ decodeFrom (lead n).2 bs := by
  show (lead _).1 ++ decodeFrom (lead _).2 bs = _
  rw [toNat_ofNat h]

theorem lead_of_two {k : Nat} (hk : 2 ≤ k) (h : k < 32) :
    lead (0xC0 + k) = ([], some { owed := 0, low := 0x80, high := 0xBF, value := k }) := by
  unfold lead
  rw [if_neg (by omega), if_neg (by omega), if_pos (by omega), Nat.add_sub_cancel_left]

theorem lead_of_three : ∀ k < 16, lead (0xE0 + k) = ([], some {
    owed := 1, low := if k = 0 then 0xA0 else 0x80, high := if k = 0xD then 0x9F else 0xBF,
    value := k, low_ge := by split <;> decide }) := by
  decide

theorem lead_of_four : ∀ k < 5, lead (0xF0 + k) = ([], some {
    owed := 2, low := if k = 0 then 0x90 else 0x80, high := if k = 4 then 0x8F else 0xBF,
    value := k, low_ge := by split <;> decide }) := by
  decide

/-- A tail byte that is not the last one. -/
theorem decodeFrom_tail {q : Begun} {owed t : Nat} (ho : q.owed = owed + 1) (hl : q.low ≤ 0x80 + t)
    (hh : 0x80 + t ≤ q.high) (ht : t < 64) (bs : List UInt8) :
    decodeFrom (some q) (.ofNat (0x80 + t) :: bs) =
      decodeFrom (some { owed, low := 0x80, high := 0xBF, value := q.value * 64 + t }) bs := by
  have hn : (UInt8.ofNat (0x80 + t)).toNat = 0x80 + t := toNat_ofNat (by omega)
  simp only [decodeFrom, step, hn, hl, hh, ho, and_self, if_true, Nat.add_sub_cancel_left,
    List.nil_append]

theorem decodeFrom_lastTail {q : Begun} {t : Nat} (ho : q.owed = 0) (hl : q.low ≤ 0x80 + t)
    (hh : 0x80 + t ≤ q.high) (ht : t < 64) (bs : List UInt8) :
    decodeFrom (some q) (.ofNat (0x80 + t) :: bs) = Char.ofNat (q.value * 64 + t) :: decode bs := by
  have hn : (UInt8.ofNat (0x80 + t)).toNat = 0x80 + t := toNat_ofNat (by omega)
  simp only [decodeFrom, step, hn, hl, hh, ho, and_self, if_true, Nat.add_sub_cancel_left,
    List.singleton_append, decode]

theorem decode_encodeChar (c : Char) (bs : List UInt8) :
    decode (encodeChar c ++ bs) = c :: decode bs := by
  have hvalid : c.toNat < 0xD800 ∨ 0xDFFF < c.toNat ∧ c.toNat < 0x110000 := c.valid
  have hc : ∀ n, n = c.toNat → Char.ofNat n :: decode bs = c :: decode bs := by
    rintro _ rfl
    rw [Char.ofNat_toNat]
  unfold encodeChar
  dsimp only
  split
  · rw [List.singleton_append, decode_cons (by omega), lead, if_pos (by assumption)]
    exact hc _ rfl
  split
  · rw [List.cons_append, decode_cons (by omega), lead_of_two (by omega) (by omega),
      List.cons_append, List.nil_append, List.nil_append,
      decodeFrom_lastTail rfl (by dsimp only; omega) (by dsimp only; omega) (by omega)]
    exact hc _ (by dsimp only; omega)
  split
  · rw [List.cons_append, decode_cons (by omega), lead_of_three _ (by omega),
      List.cons_append, List.cons_append, List.nil_append, List.nil_append,
      decodeFrom_tail rfl (by dsimp only; split <;> omega) (by dsimp only; split <;> omega)
        (by omega),
      decodeFrom_lastTail rfl (by dsimp only; omega) (by dsimp only; omega) (by omega)]
    exact hc _ (by dsimp only; omega)
  · rw [List.cons_append, decode_cons (by omega), lead_of_four _ (by omega),
      List.cons_append, List.cons_append, List.cons_append, List.nil_append, List.nil_append,
      decodeFrom_tail rfl (by dsimp only; split <;> omega) (by dsimp only; split <;> omega)
        (by omega),
      decodeFrom_tail rfl (by dsimp only; omega) (by dsimp only; omega) (by omega),
      decodeFrom_lastTail rfl (by dsimp only; omega) (by dsimp only; omega) (by omega)]
    exact hc _ (by dsimp only; omega)

theorem decode_encode (cs : List Char) : decode (encode cs) = cs := by
  induction cs with
  | nil => rfl
  | cons c cs ih =>
    show decode (encodeChar c ++ encode cs) = _
    rw [decode_encodeChar, ih]

theorem text?_bytes (s : String) : text? (bytes s) = some s := by
  unfold text? bytes
  rw [decode_encode, if_pos rfl, String.ofList_toList]

end AppVersions.Text.Utf8

/-- A file that holds the bytes of a text is read as that text. -/
theorem AppVersions.Host.readText_of_bytes {host : Host} {p : Path} {s : String}
    (h : host.readFile p = .ok (Text.Utf8.bytes s)) : host.readText p = .ok s := by
  simp only [readText, h, bind, Except.bind, Text.Utf8.text?_bytes]
  rfl
