import ServerPilot.Lib.SharedDirectory

/-!
# Backups of the database

`Database.backup`, call by call: SQLite copies the live database into a temporary file, which is
checked, synced and renamed. Nothing keeps two backups from writing to one destination at a time.

What SQLite keeps beside the temporary file while it copies and checks is left out: its `-wal` and
`-shm` files. `backup` unlinks the temporary name alone, and the connection that checks the copy,
which is read-only, leaves them behind.
-/

namespace ServerPilot.Database

open DurableFile

variable {C : Type*}

/-- The name `mkstemp` makes of what it draws. -/
def copyName (destination random : String) : String := "." ++ destination ++ "." ++ random ++ ".tmp"

/-- From `os.fsync` on: the copy is made durable and put in place. -/
def publishCopy (destination temporary : String) : Prog String C Outcome :=
  .call (.sync temporary) fun
    | .ok => .call (.rename temporary destination) fun
      | .ok => .call .syncNames fun
        | .ok => cleanUp temporary .returned
        | _ => cleanUp temporary .raised
      | _ => cleanUp temporary .raised
    | _ => cleanUp temporary .raised

/-- `Database.backup`. `copy` is what the online backup reads of the live database, `intact` what
`PRAGMA integrity_check` says of a file, if it can be run. The write is all that SQLite does to the
temporary file: the copy and the checkpoint. A database in memory has no path. -/
def backup (intact : C → Bool) (source : Option String) (destination temporary : String) (copy : C)
    (checks : Bool) : Prog String C Outcome :=
  if source = none ∨ source = some destination then .done .raised
  else
    .call (.create temporary) fun
      | .ok => .call (.write temporary copy) fun
        | .ok =>
          if checks && intact copy then publishCopy destination temporary
          else cleanUp temporary .raised
        | _ => cleanUp temporary .raised
      | _ => .done .raised

/-- Backups to one destination: the copies they make, and whether each could be checked. -/
structure Backups (C : Type*) where
  intact : C → Bool
  source : Option String
  destination : String
  copies : ℕ → C
  checks : ℕ → Bool

/-- A backup begins, makes a call, ends or dies, or the power is lost. -/
def Backups.Step (b : Backups C) : Crew String C → Crew String C → Prop :=
  Crew.Step b.destination (fun t => ∃ random, t = copyName b.destination random) fun j t =>
    backup b.intact b.source b.destination t (b.copies j) (b.checks j)

end ServerPilot.Database
