import ClippedCylinder.CommandLine.Arguments
import ClippedCylinder.CommandLine.Log
import ClippedCylinder.Cylinder.Summary

/-!
# Sessions

A session is a sequence of runs of the command line.  The logger and the files stay from one
run to the next; every run that is not stopped by its arguments sets the logger up anew and
empties its log file.  A run compiles its descriptors in order, prints a summary of each, and
ends at the first one that is rejected.  How arguments are read and what time it is depends on
the host of the run.
-/

namespace ClippedCylinder.CommandLine

/-! ### Hosts -/

/-- What a run finds on its host. -/
structure Host where
  /-- The rules for options. -/
  rules : OptionRules
  /-- The time at which a run makes each of its records, counted from 0.  Without a clock, lines
  are written without times, so that logs made at different times can be compared. -/
  clock : Option (Nat → Time)

namespace Host

/-- A host with the older rules and without a clock. -/
def plain : Host :=
  ⟨.older, none⟩

/-- The time at which a run makes its `n`-th record. -/
def time? (host : Host) (n : Nat) : Option Time :=
  host.clock.map fun clock => clock n

end Host

/-! ### Runs -/

/-- Something printed. -/
inductive Printed where
  /-- A text. -/
  | text (s : String)
  /-- The summary of a cylinder, on a line of its own. -/
  | summary (c : Cylinder Float)

/-- What is printed, with numbers written as given. -/
def Printed.render (number : Float → String) : Printed → String
  | text s => s
  | summary c => c.summary number ++ "\n"

/-- How a run ends. -/
inductive Ending where
  /-- With an exit status. -/
  | exit (status : Nat)
  /-- With a failure that is no rejection of a descriptor. -/
  | escaped (f : Fault Float)

/-- What stays from one run to the next. -/
structure Session where
  logger : Logger
  files : Files
deriving DecidableEq, Repr

/-- A session with its current run: the host, the output so far, and the number of records that
were made. -/
structure Shell where
  host : Host
  session : Session
  printed : List Printed
  errors : String
  logged : Nat

/-- What a run shows. -/
structure Outcome where
  ending : Ending
  printed : List Printed
  errors : String

/-- The printed text. -/
def Outcome.output (number : Float → String) (o : Outcome) : String :=
  String.join (o.printed.map (Printed.render number))

/-- The session before its first run. -/
def Session.initial : Session :=
  ⟨Logger.initial, []⟩

namespace Shell

/-- A session at the beginning of a run. -/
def start (host : Host) (session : Session) : Shell :=
  ⟨host, session, [], "", 0⟩

/-- Writes a line of the log. -/
def deliver (line : String) (s : Shell) : Sink → Shell
  | .console => { s with errors := s.errors ++ line }
  | .file path =>
    { s with session := { s.session with files := s.session.files.append path line } }

/-- Logs a record. -/
def log (s : Shell) (r : Record) : Shell :=
  let line := r.line (s.host.time? s.logged)
  { (s.session.logger.sinks r).foldl (deliver line) s with logged := s.logged + 1 }

/-- Prints something. -/
def print (s : Shell) (p : Printed) : Shell :=
  { s with printed := s.printed ++ [p] }

/-- Sets the logger up.  An empty file name names no file. -/
def setUp (s : Shell) (level : Level) (logFile : Option String) : Shell :=
  let logFile := logFile.filter (· != "")
  let files :=
    match logFile with
    | some path => s.session.files.write path ""
    | none => s.session.files
  let s := { s with session := ⟨s.session.logger.setUp level logFile, files⟩ }
  s.log ⟨"forbildshapes", .debug, "Logging initialized."⟩

/-- Compiles the descriptors in order and prints their summaries. -/
def compileAll (strict : Bool) (s : Shell) : List String → Shell × Ending
  | [] => (s, .exit 0)
  | d :: ds =>
    let compiled : Traced Float (Cylinder Float) := Cylinder.compile strict d
    let s := compiled.notes.foldl (fun s n => s.log (Record.ofNote n)) s
    match compiled.outcome with
    | .ok c => (s.print (.summary c)).compileAll strict ds
    | .error f =>
      if f.isRejection then
        (s.log ⟨"forbildshapes.cli", .error, s!"Cannot compile '{d}': {f.message}"⟩, .exit 1)
      else (s, .escaped f)

/-- Does what is asked for. -/
def serve (s : Shell) (r : Request) : Shell × Ending :=
  (s.setUp (if r.verbose then .debug else .warning) r.logFile).compileAll r.strict r.descriptors

end Shell

/-- Runs the command line in a session. -/
def Session.run (session : Session) (arguments : List String) (host : Host := Host.plain) :
    Session × Outcome :=
  match parseArguments host.rules arguments with
  | .error cause => (session, ⟨.exit 2, [], refusal cause⟩)
  | .ok .help => (session, ⟨.exit 0, [.text helpText], ""⟩)
  | .ok (.request r) =>
    let (s, ending) := (Shell.start host session).serve r
    (s.session, ⟨ending, s.printed, s.errors⟩)

end ClippedCylinder.CommandLine
