-- All ways to write a value of JSON: numbers and strings in any notation, lists and objects with
-- any blanks.
import AppVersions.Proofs.Json.Tokens

namespace AppVersions.Json

open AppVersions.Reader (bind_ok stopsAt_cons)

/-! ## What stands around values -/

/-- Blanks, as they may stand around every part of a value. -/
def Blanks (cs : List Char) : Prop := ∀ c ∈ cs, isBlank c = true

/-- What stands in front of an item of a list or object: blanks, and a comma unless it is the first.
-/
inductive Separator : Bool → List Char → Prop
  | first {blanks : List Char} (h : Blanks blanks) : Separator true blanks
  | next {blanks more : List Char} (h : Blanks blanks) (hm : Blanks more) :
      Separator false (blanks ++ ',' :: more)

theorem isBlank_iff {c : Char} : isBlank c = true ↔ c = ' ' ∨ c = '\n' ∨ c = '\t' ∨ c = '\r' := by
  simp only [isBlank, Bool.or_eq_true, beq_iff_eq, or_assoc]

theorem ends_of_blanks {blanks : List Char} (h : Blanks blanks) {c : Char}
    (hc : belongsToNumber c = false) (rest : List Char) : Ends (blanks ++ c :: rest) := by
  cases blanks with
  | nil => exact stopsAt_cons hc rest
  | cons b blanks =>
    refine stopsAt_cons ?_ _
    rcases isBlank_iff.mp (h b List.mem_cons_self) with rfl | rfl | rfl | rfl <;> rfl

theorem ends_of_separator {separator : List Char} (h : Separator false separator)
    (rest : List Char) : Ends (separator ++ rest) := by
  cases h with | next h hm =>
  rw [List.append_assoc]
  exact ends_of_blanks h rfl _

theorem peekToken_behind {blanks : List Char} (h : Blanks blanks) {c : Char}
    (hc : isBlank c = false) (cs : List Char) :
    peekToken (blanks ++ c :: cs) = .ok (some c, c :: cs) := by
  rw [peekToken_of_blanks h]
  exact peekToken_cons hc cs

theorem hasItem_of_close {closing : Char} (hc : isBlank closing = false) {blanks : List Char}
    (h : Blanks blanks) (first : Bool) (rest : List Char) :
    hasItem closing first (blanks ++ [closing] ++ rest) = .ok (false, rest) := by
  unfold hasItem
  rw [List.append_assoc, List.singleton_append, bind_ok (peekToken_behind h hc rest)]
  dsimp only
  rw [if_pos rfl]
  rfl

theorem hasItem_of_separator {closing c : Char} (hb : isBlank c = false) (hc : c ≠ closing)
    (hcomma : ',' ≠ closing) {first : Bool} {separator : List Char} (h : Separator first separator)
    (cs : List Char) : hasItem closing first (separator ++ c :: cs) = .ok (true, c :: cs) := by
  unfold hasItem
  cases h with
  | first h =>
    rw [bind_ok (peekToken_behind h hb cs)]
    dsimp only
    rw [if_neg hc]
    rfl
  | next h hm =>
    rw [List.append_assoc, List.cons_append, bind_ok (peekToken_behind h rfl _)]
    dsimp only
    rw [if_neg hcomma, if_neg (by decide), if_pos rfl, bind_ok (Reader.next_cons _ _),
      bind_ok (peekToken_behind hm hb cs)]
    dsimp only
    rw [if_neg hc]
    rfl

theorem colon_behind {blanks : List Char} (h : Blanks blanks) (cs : List Char) :
    colon (blanks ++ ':' :: cs) = .ok ((), cs) := by
  unfold colon
  rw [bind_ok (peekToken_behind h rfl cs)]
  rfl

/-! ## Values -/

/-- A value of JSON, however it is written; its numbers keep their digits. -/
inductive Tree
  | null
  | flag (b : Bool)
  | number (n : NumberLiteral)
  | text (s : String)
  | list (elements : List Tree)
  | object (members : List (String × Tree))

mutual

/-- The texts of a value. -/
inductive Spelled : Tree → List Char → Prop
  | null : Spelled .null "null".toList
  | flag (b : Bool) : Spelled (.flag b) (if b then "true" else "false").toList
  | number {n : NumberLiteral} {cs : List Char} (h : LiteralSpelled n cs) : Spelled (.number n) cs
  | text {s : String} {cs : List Char} (h : StringSpelled s cs) : Spelled (.text s) cs
  | list {ts : List Tree} {cs : List Char} (h : ElementsSpelled true ts cs) :
      Spelled (.list ts) ('[' :: cs)
  | object {ms : List (String × Tree)} {cs : List Char} (h : MembersSpelled true ms cs) :
      Spelled (.object ms) ('\x7b' :: cs)

/-- The rest of a list, after its opening bracket or after an element. -/
inductive ElementsSpelled : Bool → List Tree → List Char → Prop
  | close {first : Bool} {blanks : List Char} (h : Blanks blanks) :
      ElementsSpelled first [] (blanks ++ [']'])
  | cons {first : Bool} {t : Tree} {ts : List Tree} {separator value text : List Char}
      (hs : Separator first separator) (hv : Spelled t value)
      (hr : ElementsSpelled false ts text) :
      ElementsSpelled first (t :: ts) (separator ++ (value ++ text))

/-- The rest of an object, after its opening brace or after a member. -/
inductive MembersSpelled : Bool → List (String × Tree) → List Char → Prop
  | close {first : Bool} {blanks : List Char} (h : Blanks blanks) :
      MembersSpelled first [] (blanks ++ ['\x7d'])
  | cons {first : Bool} {key : String} {t : Tree} {ms : List (String × Tree)}
      {separator name before after value text : List Char} (hs : Separator first separator)
      (hn : StringSpelled key name) (hb : Blanks before) (ha : Blanks after)
      (hv : Spelled t value) (hr : MembersSpelled false ms text) :
      MembersSpelled first ((key, t) :: ms)
        (separator ++ (name ++ (before ++ ':' :: (after ++ (value ++ text)))))

end

/-- A whole text that holds one object, and blanks around it. -/
inductive DocumentSpelled : List (String × Tree) → String → Prop
  | object {ms : List (String × Tree)} {s : String} {before value after : List Char}
      (hb : Blanks before) (hv : Spelled (.object ms) value) (ha : Blanks after)
      (hs : s.toList = before ++ (value ++ after)) : DocumentSpelled ms s

end AppVersions.Json
