-- Whole TOML documents: lines that assign values and headers that open tables, and the table that
-- they build.
import AppVersions.Toml.Value

namespace AppVersions.Toml

/-! ## Statements -/

/-- What one line says. -/
inductive Statement
  | assign (path : List Key) (key : Key) (value : Node)
  | openTable (path : List Key) (key : Key) (span : Span)
  | openElement (path : List Key) (key : Key) (span : Span)

/-- The key of a header between brackets, without its last part, and that part. -/
def headerKey (opening closing : List Char) : Read (List Key × Key) := do
  literal opening
  let parts ← key
  skipBlanks
  literal closing
  match parts.getLast? with
  | some k => return (parts.dropLast, k)
  | none => refuse

def header : Read Statement := do
  either
    (do
      let (span, path, k) ← spanned (headerKey ['[', '['] [']', ']'])
      return .openElement path k span)
    (do
      let (span, path, k) ← spanned (headerKey ['['] [']'])
      return .openTable path k span)

/-- The statement of one line, if it has one; nothing at the end of the text. -/
def line : Read (Option (Option Statement)) := do
  skipBlanks
  match ← Reader.peek with
  | none => return none
  | some c =>
    if c = '#' ∨ c = '\n' ∨ c = '\r' then
      lineRest
      return some none
    else if c = '[' then
      let s ← header
      lineRest
      return some (some s)
    else
      let (path, k, n) ← assignment (value maxDepth)
      lineRest
      return some (some (.assign path k n))

/-- The statements of a whole text, which may start with a byte order mark. -/
def statements : Read (List Statement) := do
  if (← Reader.peek) = some '\uFEFF' then
    let _ ← Reader.next
  let lines ← Reader.collect () fun _ => line
  return lines.filterMap id

/-! ## Building -/

/-- The table that assignments go to. -/
structure Section where
  path : List Key
  key : Key
  isElement : Bool
  span : Span
  entries : Entries

/-- The entries at the root, and the table that is open unless it is the root itself. -/
structure Draft where
  root : Entries := []
  opened : Option Section := none

namespace Draft

/-- The root, with the open table put into it. -/
def close (d : Draft) : Option Entries :=
  match d.opened with
  | none => some d.root
  | some s =>
    let n : Node := .table .header (some s.span) s.entries
    if s.isElement then d.root.closeElement s.path s.key n
    else d.root.closeTable s.path s.key n

/-- The span of a table under a header grows to the end of each value. -/
def grown (span : Span) (n : Node) : Span := (n.span?.map fun s => span.to s).getD span

def assign (d : Draft) (path : List Key) (k : Key) (n : Node) : Option Draft :=
  match d.opened with
  | none => do return { d with root := ← d.root.addValue .header path k n }
  | some s => do
    let entries ← s.entries.addValue .header path k n
    return { d with opened := some { s with entries, span := grown s.span n } }

/-- Opens the table of a header. What was implied under its name moves into it. -/
def openTable (d : Draft) (path : List Key) (k : Key) (span : Span) : Option Draft := do
  let root ← d.close
  let (entries, root) ← takeOut path k.name root
  return ⟨root, some ⟨path, k, false, span, entries⟩⟩
where
  /-- The entries implied so far under a name, and the root without them. -/
  takeOut (path : List Key) (name : String) (root : Entries) : Option (Entries × Entries) := do
    let looked ← Entries.changeAt .header (fun _ es => es.reopened? name) path .header root
    let rest ← Entries.changeAt .header (fun _ es => some (es.remove name)) path .header root
    return (inside path looked, rest)
  /-- The entries at the end of a path that is there. -/
  inside : List Key → Entries → Entries
    | [], es => es
    | k :: path, es =>
      match es.get? k.name with
      | some (.table _ _ inner) => inside path inner
      | some (.tables ns) =>
        match ns.getLast? with
        | some (.table _ _ inner) => inside path inner
        | _ => []
      | _ => []

/-- Opens a new table at the end of a list of tables. -/
def openElement (d : Draft) (path : List Key) (k : Key) (span : Span) : Option Draft := do
  let root ← d.close
  let root ← Entries.changeAt .header (fun _ es =>
    match es.get? k.name with
    | none => es.add? k (.tables [])
    | some (.tables _) => some es
    | some _ => none) path .header root
  return ⟨root, some ⟨path, k, true, span, []⟩⟩

def add (d : Draft) : Statement → Option Draft
  | .assign path k n => d.assign path k n
  | .openTable path k span => d.openTable path k span
  | .openElement path k span => d.openElement path k span

end Draft

/-- The root table that statements build. -/
def build (ss : List Statement) : Option Entries := do
  let d ← ss.foldlM Draft.add {}
  d.close

/-- The root table of a text. -/
def parse (s : String) : Option Entries :=
  match statements s.toList with
  | .ok (ss, _) => build ss
  | .error _ => none

end AppVersions.Toml
