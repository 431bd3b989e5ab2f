-- TOML documents read as records: each entry of the root table that a field names has to fit it,
-- and all others are passed over.
import AppVersions.Record
import AppVersions.Toml.Document
import AppVersions.Toml.Excerpt

namespace AppVersions.Toml

/-! ## Faults -/

/-- What has the wrong shape, and where it stands if it stands anywhere. -/
structure Complaint where
  span : Option Span
  cause : Mismatch
  deriving DecidableEq, Repr

/-- The text is no TOML, or the document does not have the shape of the record. -/
inductive Fault
  | malformed
  | mismatch (span : Span) (cause : Mismatch)
  deriving DecidableEq, Repr

/-! ## Values of fields -/

def single (k : Kind) (n : Node) : Except Complaint k.Value :=
  (k.accept n.found).mapError (⟨n.span?, ·⟩)

/-- The values of a list; the first element that does not fit is reported. -/
def many (k : Kind) (n : Node) : Except Complaint (List k.Value) :=
  match n.elements? with
  | some ns => ns.mapM (single k)
  | none => .error ⟨n.span?, .wrongType n.found .sequence⟩

/-- The value of a field. There is no way to write that an optional one is unset. -/
def shaped : (s : Shape) → Node → Except Complaint s.Value
  | .one k, n => single k n
  | .optional k, n => (single k n).map some
  | .many k, n => many k n

/-! ## Records -/

/-- Puts an entry into the slot of its field. -/
def member (name : String) (n : Node) : (fs : List Field) → Slots fs → Except Complaint (Slots fs)
  | [], slots => .ok slots
  | f :: fs, (slot, slots) =>
    if f.name = name then (shaped f.shape n).map fun v => (some v, slots)
    else (member name n fs slots).map fun slots => (slot, slots)

/-- The slots after one more entry. A table that was never written is shown at its key. -/
def addEntry {fs : List Field} (slots : Slots fs) : Key × Node → Except Fault (Slots fs)
  | (k, n) => (member k.name n fs slots).mapError fun e => .mismatch (e.span.getD k.span) e.cause

/-- Reads a record from the entries of the root table of a text of `length` characters. -/
def ofEntries {α : Type} (schema : Schema α) (length : Nat) (es : Entries) : Except Fault α := do
  let slots ← es.foldlM addEntry (Slots.none schema.fields)
  let r ← (slots.finish schema.fields).mapError (.mismatch ⟨length, length⟩)
  return schema.ofRecord r

/-- Reads a record from a whole text. -/
def decode {α : Type} (schema : Schema α) (s : String) : Except Fault α :=
  match parse s with
  | some es => ofEntries schema s.length es
  | none => .error .malformed

/-! ## Wording -/

/-- The report on a text of the wrong shape. What is wrong with a text that is no TOML is not told
apart. -/
def Fault.message (s : String) : Fault → String
  | .malformed => ""
  | .mismatch span cause => (Excerpt.ofSpan s.toList span).render cause.message

end AppVersions.Toml
