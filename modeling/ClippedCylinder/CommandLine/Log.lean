import ClippedCylinder.Fault.Message
import ClippedCylinder.Trace

/-!
# The log

Records of what happens, each from a channel and with a level.  A logger passes a record on
to its handlers if the level of the record is high enough for both.  A handler writes to the
console or to a file; the files are kept as texts.  A record is written on a line with the time
at which it was made.
-/

namespace ClippedCylinder.CommandLine

/-! ### Times -/

/-- A time of day; there may be leap seconds. -/
structure Time where
  hour : Fin 24
  minute : Fin 60
  second : Fin 62
deriving DecidableEq, Repr

namespace Time

/-- A number below a hundred with two digits. -/
def twoDigits (n : Nat) : String :=
  if n < 10 then s!"0{n}" else s!"{n}"

/-- The time as it is written. -/
def text (t : Time) : String :=
  s!"{twoDigits t.hour}:{twoDigits t.minute}:{twoDigits t.second}"

end Time

/-! ### Records -/

/-- How important a record is. -/
inductive Level where
  | debug
  | warning
  | error
deriving DecidableEq, Repr

namespace Level

/-- The rank of a level. -/
def rank : Level → Nat
  | debug => 0
  | warning => 1
  | error => 2

/-- The name of a level. -/
def name : Level → String
  | debug => "DEBUG"
  | warning => "WARNING"
  | error => "ERROR"

/-- Whether a record of the first level reaches the second. -/
def reaches (l threshold : Level) : Bool :=
  threshold.rank ≤ l.rank

end Level

/-- A record of the log. -/
structure Record where
  channel : String
  level : Level
  message : String
deriving DecidableEq, Repr

/-- The line of a record that was made at a time; without a clock the line has no time. -/
def Record.line (time : Option Time) (r : Record) : String :=
  let stamp := time.elim "" fun t => s!"{t.text} - "
  stamp ++ s!"{r.channel} - {r.level.name} - {r.message}\n"

/-- The record of a note. -/
def Record.ofNote : Note Float → Record
  | .boundExpanded coordinate comparator value clause =>
    ⟨"forbildshapes.parser.bounding", .debug,
      s!"Axis bound '{coordinate}{comparator}{value}' rewritten as '{clause}'"⟩
  | .planeRead source anchor normal =>
    ⟨"forbildshapes.parser.expressions", .debug,
      s!"Plane clause '{source}' -> anchor {anchor.text}, normal {normal.text}"⟩
  | .clauseSkipped text =>
    ⟨"forbildshapes.parser.clauses", .debug, s!"Skipping unknown clause '{text}'"⟩
  | .frameCompleted x y z =>
    ⟨"forbildshapes.compiler.axes", .debug,
      s!"Completed frame a_x={x.text}, a_y={y.text}, a_z={z.text}"⟩
  | .explicitFrame => ⟨"forbildshapes.compiler.transform", .debug, "Using explicit-frame path"⟩
  | .singleAxis axis =>
    ⟨"forbildshapes.compiler.transform", .debug, s!"Using single-axis path for axis {axis.text}"⟩
  | .compiled typeName origin extents bounds =>
    ⟨"forbildshapes.compiler.assembler", .debug,
      s!"Compiled {typeName}: origin={origin.text}, extents={extents.text}, bounds={bounds}"⟩

/-! ### Loggers -/

/-- Where a handler writes to. -/
inductive Sink where
  | console
  | file (path : String)
deriving DecidableEq, Repr

/-- A handler writes the records that reach its level. -/
structure Handler where
  sink : Sink
  level : Level
deriving DecidableEq, Repr

/-- A logger passes the records that reach its level on to its handlers. -/
structure Logger where
  level : Level
  handlers : List Handler
deriving DecidableEq, Repr

namespace Logger

/-- The logger before it is set up. -/
def initial : Logger :=
  ⟨.warning, []⟩

/-- The logger without handlers. -/
def clear (l : Logger) : Logger :=
  { l with handlers := [] }

/-- The logger with one more handler. -/
def add (l : Logger) (h : Handler) : Logger :=
  { l with handlers := l.handlers ++ [h] }

/-- Sets the logger up: the level is changed, the handlers it has are dropped, and those of the
console and of a named file are added. -/
def setUp (l : Logger) (level : Level) (logFile : Option String) : Logger :=
  let l := { l with level }
  let l := if l.handlers.isEmpty then l else l.clear
  let l := l.add ⟨.console, level⟩
  match logFile with
  | some path => l.add ⟨.file path, level⟩
  | none => l

/-- The sinks that a record is written to. -/
def sinks (l : Logger) (r : Record) : List Sink :=
  if r.level.reaches l.level then
    (l.handlers.filter fun h => r.level.reaches h.level).map Handler.sink
  else []

end Logger

/-! ### Files -/

/-- The texts of the files that have been opened, by their paths. -/
abbrev Files := List (String × String)

namespace Files

/-- The text of a file, if it has been opened. -/
def read? (fs : Files) (path : String) : Option String :=
  fs.lookup path

/-- The files with the text of one of them replaced. -/
def write (fs : Files) (path text : String) : Files :=
  (path, text) :: fs.filter fun (p, _) => p != path

/-- The files with a text added to one of them. -/
def append (fs : Files) (path text : String) : Files :=
  fs.write path ((fs.read? path).getD "" ++ text)

end Files

end ClippedCylinder.CommandLine
