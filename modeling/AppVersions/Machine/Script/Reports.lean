-- Routines that print their arguments or decide conditions.
import AppVersions.Machine.Script.Asking
import AppVersions.Machine.Tool.Condition
import AppVersions.Machine.Tool.Printing

namespace AppVersions.Machine.Script.Sh

open Tool

/-! ## Printing -/

/-- The arguments as a line with escapes; a letter in front leaves the line open. The extended shell
prints as the tool does. -/
def echoArguments : Routine := fun _ arguments => do
  if (← get).isExtended then print (echoed false arguments)
  else
    let isOpen := arguments.head? = some ['-', 'n']
    let s := Bytes.unwords (if isOpen then arguments.tail else arguments)
    let (s, isOver) := unescape .plain s.length s
    print (if isOpen || isOver then s else s ++ ['\n'])

/-- How the shell prints numbers, and what it says of wrong ones. -/
def shellPrinter : Printer where
  style := .plain
  numbers := { bits := 53, least := -1074, beyond := 1024 }
  code? s := match s with
    | '"' :: rest | '\x27' :: rest => some ((rest.headD '\x00').toNat, [])
    | _ => none
  bounded? n := some (n.bmod 4294967296)
  excess _ := none
  fault f s := match f with
    | .none => []
    | .notNumeric => s ++ ": expected numeric value".toList
    | .partly => s ++ ": not completely converted".toList
    | .outOfRange => s ++ ": Numerical result out of range".toList

def printFormat : Routine := fun _ arguments => withoutOptions arguments fun others => do
  match others with
  | [] => fail "usage: printf format [arg ...]".toList
  | format :: arguments =>
    let p := Printing.run shellPrinter format arguments
    for s in p.said.reverse do complain s
    let status ← print p.text
    match p.fault with
    | some (.directive []) => fail "missing format character".toList
    | some (.directive s) => fail (s ++ ": invalid directive".toList)
    | some _ => fail "xvsnprintf failed".toList
    | none => return if p.hasFailed then 1 else status

/-! ## Conditions -/

/-- Decides a condition; one in brackets ends with the closing one. -/
def decideCondition (isBracket : Bool) : Routine := fun _ arguments => do
  if isBracket ∧ arguments.getLast? ≠ some [']'] then fail "missing ]".toList
  match ← holds (if isBracket then arguments.dropLast else arguments) with
  | .ok b => return if b then 0 else 1
  | .error e => fail e.message

/-! ## Resources -/

/-- The time that the shell and the processes under it took to compute, which is none. -/
def printTimes : Routine := fun _ _ =>
  print "0m0.000000s 0m0.000000s\n0m0.000000s 0m0.000000s\n".toList

/-- The limits on resources, none of which is limited. -/
def printLimits : Routine := fun _ arguments =>
  withOptions "HSatfdscmlpnvwr" "" arguments fun _ others =>
    if others = [] then print "unlimited\n".toList else return 0

end AppVersions.Machine.Script.Sh
