import Mathlib.Data.List.Nodup
import ClippedCylinder.CommandLine.Session

/-!
# The log of a shell

Whatever a logger was before, when it is set up it has the level and the handlers of the request and
no others (`Logger.setUp_eq`).  It writes every record that reaches its level once to the console
and once to its log file (`Logger.sinks_ofRequest`).  So when a shell logs records, the lines of
those that reach the level are added to both (`Shell.text?_logAll`), and nothing else changes: the
logger stays as it is, and logging does not interfere with printing (`Shell.logAll_printAll`).
-/

namespace ClippedCylinder.CommandLine

/-! ### Files -/

namespace Files

variable (fs : Files)

theorem read?_write (path text : String) :
  (fs.write path text).read? path = some text
  := List.lookup_cons_self

theorem read?_write_of_ne {path path' : String} (h : path' ≠ path) (text : String) :
  (fs.write path text).read? path' = fs.read? path'
  := by
  have hne : (path' == path) = false := beq_false_of_ne h
  have hfilter : (fs.filter fun file => file.1 != path).lookup path' = fs.lookup path' := by
    induction fs with
    | nil => rfl
    | cons file fs ih =>
      obtain ⟨p, t⟩ := file
      by_cases hp : p = path
      · rw [List.filter_cons_of_neg (by simp [hp]), ih, List.lookup_cons, hp, hne]
      · rw [List.filter_cons_of_pos (by simp [hp]), List.lookup_cons, List.lookup_cons, ih]
  change ((path, text) :: fs.filter fun file => file.1 != path).lookup path' = fs.lookup path'
  rw [List.lookup_cons, hne, hfilter]

end Files

/-! ### Records -/

theorem Record.level_ofNote (n : Note Float) :
  (ofNote n).level = .debug
  := by
  cases n with
  | _ => rfl

/-- The lines of the records that reach a level, where a run made the first of the records after `n`
others. -/
def logText (host : Host) (level : Level) (n : Nat) (records : List Record) : String :=
  String.join (((records.zipIdx n).filter fun (r, _) => r.level.reaches level).map
    fun (r, i) => r.line (host.time? i))

theorem logText_cons (host : Host) (level : Level) (n : Nat) (r : Record) (records : List Record) :
  logText host level n (r :: records)
    = (if r.level.reaches level then r.line (host.time? n) else "")
      ++ logText host level (n + 1) records
  := by
  cases h : r.level.reaches level with
  | true => simp [logText, h]
  | false => simp [logText, h]

theorem logText_append (host : Host) (level : Level) (n : Nat) (records records' : List Record) :
  logText host level n (records ++ records')
    = logText host level n records ++ logText host level (n + records.length) records'
  := by
  simp [logText, List.zipIdx_append]

theorem logText_eq_empty {host : Host} {level : Level} {n : Nat} {records : List Record}
    (h : ∀ r ∈ records, ¬ r.level.reaches level = true) :
  logText host level n records = ""
  := by
  induction records generalizing n with
  | nil => rfl
  | cons r records ih =>
    rw [List.forall_mem_cons] at h
    rw [logText_cons, if_neg h.1, ih h.2, String.empty_append]

/-! ### Loggers -/

/-- The logger that writes to the console, and to a file if one is named. -/
def Logger.ofRequest (level : Level) (logFile : Option String) : Logger :=
  ⟨level, ⟨.console, level⟩ :: (logFile.map fun path => ⟨.file path, level⟩).toList⟩

/-- Nothing of the logger before is left when it is set up. -/
theorem Logger.setUp_eq (l : Logger) (level : Level) (logFile : Option String) :
  l.setUp level logFile = ofRequest level logFile
  := by
  have hclear : (if l.handlers.isEmpty then { l with level } else { l with level }.clear)
      = Logger.mk level [] := by
    split
    · rename_i hempty
      rw [List.isEmpty_iff.mp hempty]
    · rfl
  unfold setUp
  simp only [hclear]
  cases logFile with
  | _ => rfl

/-- The sinks that a logger that is set up writes to. -/
def sinksOf (logFile : Option String) : List Sink :=
  .console :: (logFile.map Sink.file).toList

theorem nodup_sinksOf (logFile : Option String) :
  (sinksOf logFile).Nodup
  := by
  cases logFile with
  | none => simp [sinksOf]
  | some path => simp [sinksOf]

/-- A logger that is set up writes a record that reaches its level once to each of its sinks. -/
theorem Logger.sinks_ofRequest (level : Level) (logFile : Option String) (r : Record) :
  (ofRequest level logFile).sinks r = if r.level.reaches level then sinksOf logFile else []
  := by
  cases h : r.level.reaches level with
  | false => simp [sinks, ofRequest, h]
  | true => cases logFile <;> simp [sinks, ofRequest, sinksOf, h]

namespace Shell

/-! ### What does not change -/

theorem foldl_deliver_unchanged (line : String) (sinks : List Sink) (s : Shell) :
  (sinks.foldl (deliver line) s).session.logger = s.session.logger ∧
    (sinks.foldl (deliver line) s).printed = s.printed ∧
    (sinks.foldl (deliver line) s).host = s.host
  := by
  induction sinks generalizing s with
  | nil => exact ⟨rfl, rfl, rfl⟩
  | cons sink sinks ih =>
    rw [List.foldl_cons, (ih _).1, (ih _).2.1, (ih _).2.2]
    cases sink with
    | _ => exact ⟨rfl, rfl, rfl⟩

/-- Logging changes neither the logger, nor what is printed, nor the host. -/
theorem log_unchanged (s : Shell) (r : Record) :
  (s.log r).session.logger = s.session.logger ∧ (s.log r).printed = s.printed ∧
    (s.log r).host = s.host
  := foldl_deliver_unchanged _ _ s

theorem logged_log (s : Shell) (r : Record) :
  (s.log r).logged = s.logged + 1
  := rfl

/-- Logs records, one after the other. -/
def logAll (s : Shell) (records : List Record) : Shell :=
  records.foldl log s

/-- Prints several things. -/
def printAll (s : Shell) (ps : List Printed) : Shell :=
  { s with printed := s.printed ++ ps }

theorem printed_logAll (s : Shell) (records : List Record) :
  (s.logAll records).printed = s.printed
  := by
  induction records generalizing s with
  | nil => rfl
  | cons r records ih =>
    rw [← (s.log_unchanged r).2.1]
    apply ih

theorem foldl_deliver_printAll (line : String) (sinks : List Sink) (s : Shell) (ps : List Printed) :
  sinks.foldl (deliver line) (s.printAll ps) = (sinks.foldl (deliver line) s).printAll ps
  := by
  apply List.foldl_hom (fun s : Shell => s.printAll ps)
  intro s sink
  cases sink with
  | _ => rfl

theorem log_printAll (s : Shell) (ps : List Printed) (r : Record) :
  (s.printAll ps).log r = (s.log r).printAll ps
  := congrArg (fun s' : Shell => { s' with logged := s.logged + 1 })
    (foldl_deliver_printAll _ _ s ps)

theorem logAll_printAll (s : Shell) (ps : List Printed) (records : List Record) :
  (s.printAll ps).logAll records = (s.logAll records).printAll ps
  := by
  apply List.foldl_hom (fun s : Shell => s.printAll ps)
  intro s r
  apply log_printAll

/-! ### What is written -/

/-- The time at which the next record is made. -/
def time? (s : Shell) : Option Time :=
  s.host.time? s.logged

/-- What has been written to a sink: the errors of the run, or the text of a file. -/
def text? (s : Shell) : Sink → Option String
  | .console => some s.errors
  | .file path => s.session.files.read? path

theorem text?_deliver {s : Shell} {k : Sink} {t : String} (h : s.text? k = some t) (line : String)
    (sink : Sink) :
  (deliver line s sink).text? k = some (if sink = k then t ++ line else t)
  := by
  cases sink with
  | console =>
    cases k with
    | console =>
      obtain rfl := Option.some.inj h
      rfl
    | file path => apply h
  | file path =>
    cases k with
    | console => apply h
    | file path' =>
      change (s.session.files.append path line).read? path' = _
      change s.session.files.read? path' = some t at h
      by_cases hpath : path = path'
      · rw [Files.append, hpath, Files.read?_write, h, if_pos rfl]
        rfl
      · rw [Files.append, Files.read?_write_of_ne _ (Ne.symm hpath), h,
          if_neg (by simpa using hpath)]

theorem text?_foldl_deliver {s : Shell} {k : Sink} {t : String} (h : s.text? k = some t)
    (line : String) (sinks : List Sink) :
  (sinks.foldl (deliver line) s).text? k
    = some (t ++ String.join (List.replicate (sinks.count k) line))
  := by
  induction sinks generalizing s t with
  | nil => simpa using h
  | cons sink sinks ih =>
    rw [List.foldl_cons, ih (text?_deliver h line sink), List.count_cons]
    by_cases hk : sink = k
    · simp [hk, List.replicate_succ, String.append_assoc]
    · simp [hk]

variable {level : Level} {logFile : Option String}

theorem text?_log_eq_foldl (s : Shell) (r : Record) (k : Sink) :
  (s.log r).text? k = ((s.session.logger.sinks r).foldl (deliver (r.line s.time?)) s).text? k
  := by
  cases k with
  | _ => rfl

/-- A record that reaches the level of the logger is added once to each of its sinks. -/
theorem text?_log {s : Shell} {k : Sink} {t : String}
    (hlogger : s.session.logger = Logger.ofRequest level logFile) (hk : k ∈ sinksOf logFile)
    (h : s.text? k = some t) (r : Record) :
  (s.log r).text? k = some (t ++ if r.level.reaches level then r.line s.time? else "")
  := by
  have hcount : (sinksOf logFile).count k = 1 :=
    List.count_eq_one_of_mem (nodup_sinksOf logFile) hk
  rw [text?_log_eq_foldl, hlogger, Logger.sinks_ofRequest]
  split
  · rw [text?_foldl_deliver h, hcount]
    simp
  · simpa using h

/-- The lines of the records that reach the level of the logger are added to each of its sinks. -/
theorem text?_logAll {s : Shell} {k : Sink} {t : String}
    (hlogger : s.session.logger = Logger.ofRequest level logFile) (hk : k ∈ sinksOf logFile)
    (h : s.text? k = some t) (records : List Record) :
  (s.logAll records).text? k = some (t ++ logText s.host level s.logged records)
  := by
  induction records generalizing s t with
  | nil => simpa [logAll, logText] using h
  | cons r records ih =>
    have hstep := ih ((s.log_unchanged r).1.trans hlogger) (text?_log hlogger hk h r)
    rw [(s.log_unchanged r).2.2, logged_log, String.append_assoc] at hstep
    rw [logText_cons]
    apply hstep

end Shell

end ClippedCylinder.CommandLine
