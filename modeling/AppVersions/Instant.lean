-- Instants: a date and a time of day in coordinated universal time, down to the nanosecond, where
-- any minute may have a 61st second; and their one written form.
import AppVersions.Calendar

namespace AppVersions

/-- A moment in coordinated universal time. -/
structure Instant where
  date : Date
  hour : Nat
  minute : Nat
  second : Nat
  nanosecond : Nat
  valid : date.Valid ∧ hour < 24 ∧ minute < 60 ∧ second ≤ 60 ∧ nanosecond < 1000000000
  deriving DecidableEq

namespace Instant

/-! ## Shifting -/

/-- The moment that a clock running `offset` minutes ahead shows as the given date and time, unless
its year cannot be represented. -/
def ofLocal? (date : Date) (hour minute second nanosecond : Nat) (offset : Int) : Option Instant :=
  let minutes : Int := hour * 60 + minute - offset
  let (date, minutes) :=
    if minutes < 0 then (date.previous, minutes + 1440)
    else if 1440 ≤ minutes then (date.next, minutes - 1440)
    else (date, minutes)
  let hour := minutes.toNat / 60
  let minute := minutes.toNat % 60
  if h : date.Valid ∧ hour < 24 ∧ minute < 60 ∧ second ≤ 60 ∧ nanosecond < 1000000000 then
    some ⟨date, hour, minute, second, nanosecond, h⟩
  else none

/-- The first moment of 1970. -/
def epoch : Instant := ⟨⟨1970, 1, 1⟩, 0, 0, 0, 0, by decide⟩

/-- The moment some seconds and nanoseconds after the first one of 1970, as long as its year can be
represented; else that one. -/
def sinceEpoch (seconds nanosecond : Nat) : Instant :=
  (ofLocal? (epoch.date.later (seconds / 86400)) (seconds / 3600 % 24) (seconds / 60 % 60)
    (seconds % 60) nanosecond 0).getD epoch

/-! ## Writing -/

/-- A number with at least `width` digits. -/
def padded (width n : Nat) : List Char := (Nat.toDigits 10 n).leftpad width '0'

/-- Four digits within 0 to 9999, a sign and at least four digits elsewhere. -/
def showYear (year : Int) : List Char :=
  if 0 ≤ year ∧ year ≤ 9999 then padded 4 year.toNat
  else (if year < 0 then '-' else '+') :: padded 4 year.natAbs

/-- Nothing, three, six or nine digits: the fewest that lose nothing. -/
def showFraction (nanosecond : Nat) : List Char :=
  if nanosecond = 0 then []
  else if nanosecond % 1000000 = 0 then '.' :: padded 3 (nanosecond / 1000000)
  else if nanosecond % 1000 = 0 then '.' :: padded 6 (nanosecond / 1000)
  else '.' :: padded 9 nanosecond

def chars (t : Instant) : List Char :=
  showYear t.date.year ++ '-' :: padded 2 t.date.month ++ '-' :: padded 2 t.date.day ++
    'T' :: padded 2 t.hour ++ ':' :: padded 2 t.minute ++ ':' :: padded 2 t.second ++
    showFraction t.nanosecond ++ ['Z']

/-- The text of a moment, such as `2024-02-29T23:59:60.500Z`. -/
def text (t : Instant) : String := .ofList t.chars

end Instant

end AppVersions
