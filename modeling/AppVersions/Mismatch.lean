-- Why well-formed data does not have the shape that was wanted, whatever the notation it came in.
import AppVersions.Instant.Reading
import AppVersions.Text.Quoted

namespace AppVersions

/-- A value as far as its kind shows: lists and tables are not looked into. -/
inductive Found
  | null
  | flag (b : Bool)
  | integer (n : Int)
  | real (text : String)
  | text (s : String)
  | sequence
  | table
  deriving DecidableEq, Repr

/-- What was wanted instead. -/
inductive Wanted
  | text
  | path
  | flag
  | int32
  | word64
  | instant
  | sequence
  | nothing
  | variant
  | record (name : String)
  deriving DecidableEq, Repr

inductive Mismatch
  | wrongType (found : Found) (wanted : Wanted)
  | outOfRange (n : Int) (wanted : Wanted)
  | wrongLength (length : Nat) (name : String) (fields : Nat)
  | duplicate (field : String)
  | missing (field : String)
  | unknownVariant (name : String) (variants : List String)
  | instant (fault : Instant.Fault)
  deriving DecidableEq, Repr

/-! ## Wording -/

/-- A name or number between grave accents. -/
def ticked (s : String) : String := "\x60" ++ s ++ "\x60"

def Found.message : Found → String
  | .null => "null"
  | .flag b => "boolean " ++ ticked (if b then "true" else "false")
  | .integer n => "integer " ++ ticked (toString n)
  | .real s => "floating point " ++ ticked s
  | .text s => "string " ++ Text.quoted s
  | .sequence => "sequence"
  | .table => "map"

def Wanted.message : Wanted → String
  | .text => "a string"
  | .path => "path string"
  | .flag => "a boolean"
  | .int32 => "i32"
  | .word64 => "u64"
  | .instant => "an RFC 3339 formatted date and time string"
  | .sequence => "a sequence"
  | .nothing => "unit"
  | .variant => "variant identifier"
  | .record name => "struct " ++ name

def Mismatch.message : Mismatch → String
  | .wrongType found wanted => "invalid type: " ++ found.message ++ ", expected " ++ wanted.message
  | .outOfRange n wanted =>
    "invalid value: " ++ (Found.integer n).message ++ ", expected " ++ wanted.message
  | .wrongLength n name k =>
    "invalid length " ++ toString n ++ ", expected struct " ++ name ++ " with " ++ toString k ++
      " elements"
  | .duplicate field => "duplicate field " ++ ticked field
  | .missing field => "missing field " ++ ticked field
  | .unknownVariant name variants =>
    "unknown variant " ++ ticked name ++ ", expected " ++ " or ".intercalate (variants.map ticked)
  | .instant fault => fault.message

end AppVersions
