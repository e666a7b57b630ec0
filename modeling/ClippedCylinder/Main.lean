import Mathlib
import ClippedCylinder.CommandLine.Session

/-!
# The command

Compiles the descriptors given as arguments and prints their summaries.
-/

open ClippedCylinder ClippedCylinder.CommandLine

/-- The time of day. -/
def ClippedCylinder.CommandLine.Time.now : IO Time := do
  let t ← Std.Time.PlainTime.now
  return ⟨Fin.ofNat 24 t.hour.toNat, Fin.ofNat 60 t.minute.toNat, Fin.ofNat 62 t.second.toNat⟩

/-- Runs the command line once, shows its output and writes its log file.  All records carry the
time at which the run begins. -/
def main (arguments : List String) : IO UInt32 := do
  let time ← Time.now
  let (session, outcome) := Session.initial.run arguments ⟨.newer, some fun _ => time⟩
  IO.print (outcome.output Decimal.Format.json.write)
  IO.eprint outcome.errors
  for (path, text) in session.files do
    IO.FS.writeFile path text
  match outcome.ending with
  | .exit status => return status.toUInt32
  | .escaped f =>
    IO.eprintln f.message
    return 1
