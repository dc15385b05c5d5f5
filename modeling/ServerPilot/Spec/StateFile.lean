import Mathlib.Logic.Relation
import ServerPilot.Lib.DurableFile
import ServerPilot.Spec.Protocol

/-!
# The file of the recorded workers

`_write_identities`, call by call: what the helper's process asks of the file system to replace or
remove `workers.v3.json`. Any call may fail, the process may die at any of them, and the server may
lose its power; the lock lets one process write at a time.
-/

namespace ServerPilot.Protocol

open DurableFile Helper

variable (floats : Floats)

def statePath : String := "workers.v3.json"

/-- The name `mkstemp` makes of what it draws. -/
def temporaryName (random : String) : String := ".workers.v3." ++ random ++ ".tmp"

/-- `_write_identities`. -/
def writeIdentities (random : String) (identities : Identities) :
    Prog String (List Char) Outcome :=
  match writtenText floats identities with
  | none => remove statePath
  | some text => publish statePath (temporaryName random) text

/-- A call of `_write_identities` that has not ended, and what was in the file before it. -/
structure Running where
  identities : Identities
  before : Option (List Char)
  program : Prog String (List Char) Outcome

/-- The state directory, and who writes to it. `begun` lists what calls were to write, `promised`
is what the last one wrote, if it returned and is to be relied on, and `unsure` says that a call
ended badly and none has put a file in place or removed one since. -/
structure Session where
  disk : Disk String (List Char)
  running : Option Running := none
  begun : List Identities := []
  promised : Option Identities := none
  unsure : Bool := false

/-- A new state directory. -/
def Session.start : Session where disk := Disk.empty []

/-- A call that had nobody to record and no file to remove. It did not sync the directory. -/
def Running.idle (x : Running) : Prop := x.identities.entries = [] ∧ x.before = none

instance (x : Running) : Decidable x.idle :=
  inferInstanceAs (Decidable (_ ∧ _))

/-- A call ends. One that had nothing to do promises nothing while the session is unsure. -/
def Session.finish (w : Session) (x : Running) (r : Outcome) : Session :=
  match r with
  | .raised => { w with running := none, promised := none, unsure := true }
  | .returned =>
    { w with
      running := none
      promised := if w.unsure = true ∧ x.idle then none else some x.identities
      unsure := w.unsure && decide x.idle }

inductive Session.Step : Session → Session → Prop
  | begin (w : Session) (identities : Identities) (random : String) (h : w.running = none) :
    Step w { w with
      running := some ⟨identities, w.disk.read statePath, writeIdentities floats random identities⟩
      begun := identities :: w.begun
      promised := none }
  | call (w : Session) (x : Running) (c : Call String (List Char))
    (resume : Answer → Prog String (List Char) Outcome) (a : Answer)
    (disk : Disk String (List Char)) (h : w.running = some x) (hp : x.program = .call c resume)
    (hd : Does w.disk c a disk) :
    Step w { w with disk, running := some { x with program := resume a } }
  | finish (w : Session) (x : Running) (r : Outcome) (h : w.running = some x)
    (hp : x.program = .done r) : Step w (w.finish x r)
  /-- The process dies; the call it asked for last may have been served. -/
  | die (w : Session) (x : Running) (disk : Disk String (List Char)) (h : w.running = some x)
    (hd : disk = w.disk ∨ ∃ c resume a, x.program = .call c resume ∧ Does w.disk c a disk) :
    Step w { w with disk, running := none, unsure := true }
  /-- The server loses its power while nobody writes. -/
  | cut (w : Session) (disk : Disk String (List Char)) (h : w.running = none)
    (hd : Cut w.disk disk) : Step w { w with disk, unsure := false }

end ServerPilot.Protocol
