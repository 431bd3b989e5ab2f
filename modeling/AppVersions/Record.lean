-- Records described by data: the fields of a type, what each may hold, and the two maps between the
-- type and the tuple of its fields. Whatever reads or writes a record follows the description.
import AppVersions.Mismatch
import AppVersions.Path

namespace AppVersions

/-! ## Descriptions -/

/-- The kinds of single values. -/
inductive Kind
  | text
  | path
  | flag
  | int32
  | word64
  | instant
  deriving DecidableEq, Repr

def Kind.Value : Kind → Type
  | .text => String
  | .path => Path
  | .flag => Bool
  | .int32 => Int32
  | .word64 => UInt64
  | .instant => Instant

/-- One value, one or none, or a list. -/
inductive Shape
  | one (kind : Kind)
  | optional (kind : Kind)
  | many (kind : Kind)
  deriving DecidableEq, Repr

def Shape.Value : Shape → Type
  | .one k => k.Value
  | .optional k => Option k.Value
  | .many k => List k.Value

/-- A named part of a record. `defaults` says that it may be left out of any notation; an optional
one may always be left out where fields are named. -/
structure Field where
  name : String
  shape : Shape
  defaults : Bool
  deriving DecidableEq, Repr

/-- The value of a field that is left out, where it may be. -/
def Shape.empty? : (s : Shape) → Option s.Value
  | .one _ => none
  | .optional _ => some none
  | .many _ => some []

/-- The value of a field that no member names. -/
def Field.unnamed? (f : Field) : Option f.shape.Value :=
  match f.shape with
  | .one _ => none
  | .optional _ => some none
  | .many _ => if f.defaults then some [] else none

/-- The value of a field that a list of values is too short for. -/
def Field.beyond? (f : Field) : Option f.shape.Value :=
  if f.defaults then f.shape.empty? else none

/-! ## Records -/

/-- The values of the fields, in order. -/
def Record : List Field → Type
  | [] => Unit
  | f :: fs => f.shape.Value × Record fs

/-- The values read so far. -/
def Slots : List Field → Type
  | [] => Unit
  | f :: fs => Option f.shape.Value × Slots fs

def Slots.none : (fs : List Field) → Slots fs
  | [] => ()
  | _ :: fs => (Option.none, Slots.none fs)

/-- The record, when every field has a value or may be left out; else the first that may not. -/
def Slots.finish : (fs : List Field) → Slots fs → Except Mismatch (Record fs)
  | [], _ => .ok ()
  | f :: fs, (slot, slots) =>
    match slot.or f.unnamed? with
    | .none => .error (.missing f.name)
    | some v => (Slots.finish fs slots).map fun r => (v, r)

/-- A type as a named record. -/
structure Schema (α : Type) where
  name : String
  fields : List Field
  toRecord : α → Record fields
  ofRecord : Record fields → α
  ofRecord_toRecord : ∀ a, ofRecord (toRecord a) = a
  toRecord_ofRecord : ∀ r, toRecord (ofRecord r) = r
  names_nodup : (fields.map (·.name)).Nodup

/-! ## Single values -/

/-- What a kind is called where something else was found. -/
def Kind.wanted : Kind → Wanted
  | .text => .text
  | .path => .path
  | .flag => .flag
  | .int32 => .int32
  | .word64 => .word64
  | .instant => .instant

/-- The value of a kind that a found value is, if it is one. -/
def Kind.accept (k : Kind) (found : Found) : Except Mismatch k.Value :=
  match k, found with
  | .text, .text s => .ok s
  | .path, .text s => .ok (⟨s⟩ : Path)
  | .flag, .flag b => .ok b
  | .int32, .integer n =>
    if -2147483648 ≤ n ∧ n ≤ 2147483647 then .ok (Int32.ofInt n)
    else .error (.outOfRange n .int32)
  | .word64, .integer n =>
    if 0 ≤ n ∧ n ≤ 18446744073709551615 then .ok (UInt64.ofNat n.toNat)
    else .error (.outOfRange n .word64)
  | .instant, .text s =>
    match Instant.read s with
    | .ok t => .ok t
    | .error fault => .error (.instant fault)
  | k, found => .error (.wrongType found k.wanted)

end AppVersions
