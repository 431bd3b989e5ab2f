-- Values of JSON read as what was wanted: single values, optional ones, lists and records, where a
-- record may stand as an object or as the list of its fields in order.
import AppVersions.Json.Skip
import AppVersions.Record

namespace AppVersions.Json

/-! ## Single values -/

/-- The next value as far as its kind shows. A list or an object is left in place. -/
def token : Read Found := do
  match ← peekToken with
  | none => truncated
  | some c =>
    if c = 'n' then
      literal "null".toList
      return .null
    else if c = 't' then
      literal "true".toList
      return .flag true
    else if c = 'f' then
      literal "false".toList
      return .flag false
    else if c = '"' then return .text (← string)
    else if c = '-' ∨ c.isDigit then number
    else if c = '[' then return .sequence
    else if c = '\x7b' then return .table
    else malformed

def accepted {α : Type} : Except Mismatch α → Read α
  | .ok a => pure a
  | .error cause => mismatch cause

def single (k : Kind) : Read k.Value := do
  accepted (k.accept (← token))

def optional (k : Kind) : Read (Option k.Value) := do
  match ← token with
  | .null => return none
  | found => return some (← accepted (k.accept found))

/-! ## Lists -/

def many (k : Kind) : Read (List k.Value) := do
  match ← token with
  | .sequence =>
    let _ ← Reader.next
    Reader.collect .truncated fun first => do
      if ← hasItem ']' first then return some (← single k) else return none
  | found => mismatch (.wrongType found .sequence)

def shaped : (s : Shape) → Read s.Value
  | .one k => single k
  | .optional k => optional k
  | .many k => many k

/-! ## Records as objects -/

/-- The value of the member `key`, put into the slot of its field; a member that belongs to no field
is passed over. -/
def member (key : String) : (fs : List Field) → Slots fs → Read (Slots fs)
  | [], slots => do
    colon
    skipValue
    return slots
  | f :: fs, (slot, slots) =>
    if f.name = key then
      if slot.isSome then mismatch (.duplicate key)
      else do
        colon
        return (some (← shaped f.shape), slots)
    else do
      return (slot, ← member key fs slots)

/-- The next member, if there is one; with it, that the next one is not the first. -/
def nextMember (fs : List Field) : Bool × Slots fs → Read (Option (Bool × Slots fs))
  | (first, slots) => do
    if ← hasItem '\x7d' first then
      match ← Reader.peek with
      | some '"' => return some (false, ← member (← string) fs slots)
      | _ => malformed
    else return none

def object (fs : List Field) : Read (Record fs) := do
  let (_, slots) ← Reader.repeatStep .truncated (nextMember fs) (true, Slots.none fs)
  accepted (slots.finish fs)

/-! ## Records as lists -/

/-- The values of the fields in order; `index` of `count` fields are already read. At the closing
bracket, which stays, the fields left over take their defaults. -/
def fieldsInOrder (name : String) (count : Nat) : Nat → (fs : List Field) → Read (Record fs)
  | _, [] => pure ()
  | index, f :: fs => do
    match ← peekToken with
    | none => truncated
    | some ']' =>
      match f.beyond? with
      | some v => return (v, ← fieldsInOrder name count (index + 1) fs)
      | none => mismatch (.wrongLength index name count)
    | some c =>
      if index = 0 then
        let v ← shaped f.shape
        return (v, ← fieldsInOrder name count (index + 1) fs)
      else if c = ',' then
        let _ ← Reader.next
        match ← peekToken with
        | none => truncated
        | some ']' => malformed
        | some _ =>
          let v ← shaped f.shape
          return (v, ← fieldsInOrder name count (index + 1) fs)
      else malformed

/-- The end of a list all of whose values were read. -/
def listEnd : Read Unit := do
  match ← peekToken with
  | none => truncated
  | some ']' => let _ ← Reader.next
  | some _ => malformed

/-! ## Records -/

def record {α : Type} (schema : Schema α) : Read α := do
  match ← token with
  | .table =>
    let _ ← Reader.next
    return schema.ofRecord (← object schema.fields)
  | .sequence =>
    let _ ← Reader.next
    let r ← fieldsInOrder schema.name schema.fields.length 0 schema.fields
    listEnd
    return schema.ofRecord r
  | found => mismatch (.wrongType found (.record schema.name))

/-! ## Documents -/

/-- A whole text that holds one value and nothing else but blanks. -/
def document {α : Type} (value : Read α) (s : String) : Except Fault α :=
  (do
    let a ← value
    match ← peekToken with
    | none => return a
    | some _ => malformed : Read α) s.toList |>.map (·.1)

/-- Reads a record from a whole text. -/
def decode {α : Type} (schema : Schema α) (s : String) : Except Fault α :=
  document (record schema) s

end AppVersions.Json
