-- Redirections: where the numbered files of a command lead while it runs.
import AppVersions.Machine.Script.Control

namespace AppVersions.Machine.Script.Sh

/-! ## Targets -/

/-- Where a redirection leads, once the words in it have been expanded. -/
inductive Target
  | file (opening : Opening) (name : Bytes)
  | copy (source : Nat)
  | nowhere
  | document (id : Nat)
  | text (content : Word)

/-- The number and the target of a redirection. -/
def targetOf (e : Engine) : Redirection → Sh (Nat × Target)
  | .file n opening name => return (n, .file opening (← text e name))
  | .copy n source => return (n, .copy source)
  | .close n => return (n, .nowhere)
  | .document n id => return (n, .document id)
  | .text n content => return (n, .text content)
  | .copyNamed n source => do
    match ← text e source with
    | ['-'] => return (n, .nowhere)
    | s =>
      match s with
      | [c] => if c.isDigit then return (n, .copy (c.toNat - '0'.toNat))
      | _ => pure ()
      modify fun sh => { sh with line := sh.readTo }
      fail "Syntax error: Bad fd number".toList

/-! ## Opening -/

/-- How a file is opened. -/
def demandOf : Opening → Act.Demand
  | .read => { access := { reads := true } }
  | .write | .overwrite => { access := { writes := true }, creates := true, truncates := true }
  | .append => { access := { writes := true, appends := true }, creates := true }
  | .readWrite => { access := { reads := true, writes := true }, creates := true }

/-- A channel for a named file. -/
def openNamed (opening : Opening) (name : Bytes) : Sh Nat := do
  let p : Path := ⟨Bytes.text name⟩
  let t ← Act.tree
  let keeps := (← hasOption 'C') && opening == .write && t.isFile (← Act.here) p
  if keeps then failAs (.notOpened true name .alreadyThere)
  match ← Act.openPath p (demandOf opening) with
  | .ok k => return k
  | .error why => failAs (.notOpened (opening ≠ .read) name why)

/-- A channel that holds a text. -/
def textChannel (s : Bytes) : Sh Nat := Act.newChannel (.source s false)

/-- Lets a number lead to a target. If the number is to be restored, it leads nowhere before it
leads to what another one does, so that a complaint about the other one may be lost. -/
def redirect (e : Engine) (restores : Bool) : Nat × Target → Sh Unit
  | (n, .nowhere) => Act.setFile n none
  | (n, .copy source) => do
    if source ≠ n then
      match ← Act.channelNumber? source with
      | some k => Act.setFile n (some k)
      | none =>
        if restores then Act.setFile n none
        fail (.ofNat source ++ ": ".toList ++ IoError.badNumber.reason.toList)
  | (n, .file opening name) => do Act.setFile n (some (← openNamed opening name))
  | (n, .text content) => do
    let s ← text e content
    Act.setFile n (some (← textChannel (s ++ ['\n'])))
  | (n, .document id) => do
    let content := ((← get).documents.lookup id).getD []
    let s := Stretch.bytes (← e.expand {} content)
    Act.setFile n (some (← textChannel s))

/-! ## Keeping -/

/-- Where numbers lead at present. -/
def kept (numbers : List Nat) : Sh (List (Nat × Option Nat)) :=
  numbers.eraseDups.mapM fun n => return (n, ← Act.channelNumber? n)

def restore (files : List (Nat × Option Nat)) : Sh Unit := do
  for (n, k) in files do Act.setFile n k

/-- Does what it takes to lead files elsewhere; the answer is whether that succeeded. -/
def redirectAll (e : Engine) (targets : List (Nat × Target)) : Sh Bool := do
  match ← attempt (targets.forM (redirect e true)) with
  | .ok () => return true
  | .error .fail =>
    if (← get).isExtended then setStatus 1
    return false
  | .error stop => throw stop

/-- Runs something with its files led elsewhere, if that succeeds. -/
def redirected (e : Engine) (targets : List (Nat × Target)) (a : Sh Unit) : Sh Unit := do
  let files ← kept (targets.map (·.1))
  thenAlways (do if ← redirectAll e targets then a) (restore files)

end AppVersions.Machine.Script.Sh
