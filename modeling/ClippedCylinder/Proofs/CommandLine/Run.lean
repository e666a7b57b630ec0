import Mathlib
import ClippedCylinder.Proofs.CommandLine.Log
import ClippedCylinder.Proofs.Cylinder.Rejection
import ClippedCylinder.Proofs.Cylinder.Summary
import ClippedCylinder.Proofs.Decimal.Format

/-!
# Runs of the command line

A run compiles its descriptors up to the first one that fails.  Which cylinders it prints, which
records it logs and how it ends is said without the run by `Compilation`: the descriptors are split
where the first failure is.  Every run does what is said there (`Session.run_of_compilation`), so
its output and its exit status depend on the descriptors up to the first failure and on nothing else
(`Session.run_request`).
-/

namespace ClippedCylinder.CommandLine

/-! ### Compilations -/

/-- The records of the notes that are taken while a descriptor is compiled. -/
def noteRecords (strict : Bool) (descriptor : String) : List Record :=
  (Cylinder.compile strict descriptor : Traced Float (Cylinder Float)).notes.map Record.ofNote

/-- The descriptor stands for the cylinder. -/
def Compiles (strict : Bool) (descriptor : String) (c : Cylinder Float) : Prop :=
  (Cylinder.compile strict descriptor).outcome = .ok c

/-- The descriptors are compiled to the cylinders until one fails; the compilation makes the records
and ends in the given way. -/
inductive Compilation (strict : Bool) :
    List String → List (Cylinder Float) → List Record → Ending → Prop where
  /-- All descriptors are compiled. -/
  | complete {ds : List String} {cs : List (Cylinder Float)}
      (h : List.Forall₂ (Compiles strict) ds cs) :
      Compilation strict ds cs (ds.flatMap (noteRecords strict)) (.exit 0)
  /-- A descriptor is rejected. -/
  | rejected {front : List String} {cs : List (Cylinder Float)} {d : String} {f : Fault Float}
      (h : List.Forall₂ (Compiles strict) front cs)
      (hd : (Cylinder.compile strict d : Traced Float (Cylinder Float)).outcome = .error f)
      (hf : f.isRejection = true) (back : List String) :
      Compilation strict (front ++ d :: back) cs
        ((front ++ [d]).flatMap (noteRecords strict) ++ [Shell.rejection d f]) (.exit 1)
  /-- The compilation of a descriptor fails for another reason. -/
  | escaped {front : List String} {cs : List (Cylinder Float)} {d : String} {f : Fault Float}
      (h : List.Forall₂ (Compiles strict) front cs)
      (hd : (Cylinder.compile strict d : Traced Float (Cylinder Float)).outcome = .error f)
      (hf : f.isRejection = false) (back : List String) :
      Compilation strict (front ++ d :: back) cs
        ((front ++ [d]).flatMap (noteRecords strict)) (.escaped f)

/-- There is a compilation of any descriptors. -/
theorem exists_compilation (strict : Bool) (ds : List String) :
  ∃ cs rs ending, Compilation strict ds cs rs ending
  := by
  induction ds with
  | nil => exact ⟨[], [], .exit 0, .complete .nil⟩
  | cons d ds ih =>
    cases hd : (Cylinder.compile strict d : Traced Float (Cylinder Float)).outcome with
    | error f =>
      cases hf : f.isRejection with
      | true => exact ⟨[], _, _, .rejected .nil hd hf ds⟩
      | false => exact ⟨[], _, _, .escaped .nil hd hf ds⟩
    | ok c =>
      obtain ⟨cs, rs, ending, h⟩ := ih
      cases h with
      | complete h => exact ⟨c :: cs, _, _, .complete (.cons hd h)⟩
      | rejected h hd' hf back => exact ⟨c :: cs, _, _, .rejected (.cons hd h) hd' hf back⟩
      | escaped h hd' hf back => exact ⟨c :: cs, _, _, .escaped (.cons hd h) hd' hf back⟩

namespace Shell

/-! ### Steps -/

variable {strict : Bool} {d : String} {c : Cylinder Float} {f : Fault Float}

theorem logAll_append (s : Shell) (rs rs' : List Record) :
  s.logAll (rs ++ rs') = (s.logAll rs).logAll rs'
  := List.foldl_append

theorem printAll_printAll (s : Shell) (ps ps' : List Printed) :
  (s.printAll ps).printAll ps' = s.printAll (ps ++ ps')
  := by
  rw [printAll, printAll, printAll, List.append_assoc]

/-- One more descriptor is compiled and its summary printed. -/
theorem compileAll_of_compiles (h : Compiles strict d c) (s : Shell) (ds : List String) :
  s.compileAll strict (d :: ds)
    = ((s.logAll (noteRecords strict d)).printAll [.summary c]).compileAll strict ds
  := by
  unfold Compiles at h
  rw [compileAll]
  simp only [h, noteRecords, logAll, List.foldl_map]
  rfl

/-- The compilation ends at a descriptor that is rejected. -/
theorem compileAll_of_rejection
    (h : (Cylinder.compile strict d : Traced Float (Cylinder Float)).outcome = .error f)
    (hf : f.isRejection = true) (s : Shell) (ds : List String) :
  s.compileAll strict (d :: ds)
    = (s.logAll (noteRecords strict d ++ [rejection d f]), .exit 1)
  := by
  unfold compileAll
  simp only [h, hf, noteRecords, logAll, List.foldl_append, List.foldl_map]
  rfl

/-- The compilation ends at a descriptor that fails for another reason. -/
theorem compileAll_of_escape
    (h : (Cylinder.compile strict d : Traced Float (Cylinder Float)).outcome = .error f)
    (hf : f.isRejection = false) (s : Shell) (ds : List String) :
  s.compileAll strict (d :: ds) = (s.logAll (noteRecords strict d), .escaped f)
  := by
  unfold compileAll
  simp only [h, hf, noteRecords, logAll, List.foldl_map]
  rfl

/-- Descriptors that are compiled are left behind one after the other. -/
theorem compileAll_append {front : List String} {cs : List (Cylinder Float)}
    (h : List.Forall₂ (Compiles strict) front cs) (s : Shell) (back : List String) :
  s.compileAll strict (front ++ back)
    = ((s.logAll (front.flatMap (noteRecords strict))).printAll
        (cs.map Printed.summary)).compileAll strict back
  := by
  induction h generalizing s with
  | nil =>
    have hprint : s.printAll [] = s := by rw [printAll, List.append_nil]
    exact congrArg (compileAll strict · back) hprint.symm
  | cons hd h ih =>
    rw [List.cons_append, compileAll_of_compiles hd, ih, logAll_printAll, printAll_printAll,
      ← logAll_append, ← List.flatMap_cons]
    rfl

/-- Descriptors are compiled as their compilation says. -/
theorem compileAll_of_compilation {ds : List String} {cs : List (Cylinder Float)}
    {rs : List Record} {ending : Ending} (h : Compilation strict ds cs rs ending) (s : Shell) :
  s.compileAll strict ds = ((s.logAll rs).printAll (cs.map Printed.summary), ending)
  := by
  cases h with
  | complete h =>
    have happend := compileAll_append h s []
    rw [List.append_nil] at happend
    apply happend
  | rejected h hd hf back =>
    rw [compileAll_append h, compileAll_of_rejection hd hf, logAll_printAll, ← logAll_append,
      List.flatMap_append, List.append_assoc, List.flatMap_singleton]
  | escaped h hd hf back =>
    rw [compileAll_append h, compileAll_of_escape hd hf, logAll_printAll, ← logAll_append,
      List.flatMap_append, List.flatMap_singleton]

end Shell

/-! ### Requests -/

/-- The level at which a request logs. -/
def Request.level (r : Request) : Level :=
  if r.verbose then .debug else .warning

/-- The log file that a request names; an empty name names no file. -/
def Request.file? (r : Request) : Option String :=
  r.logFile.filter (· != "")

/-- The record of a logger that is set up. -/
def Record.initialized : Record :=
  ⟨"forbildshapes", .debug, "Logging initialized."⟩

/-- The shell in which the descriptors of a request are compiled, before its first record. -/
def Shell.begun (s : Shell) (r : Request) : Shell :=
  { s with
    session :=
      ⟨Logger.ofRequest r.level r.file?,
        match r.file? with
        | some path => s.session.files.write path ""
        | none => s.session.files⟩ }

theorem Shell.text?_begun (s : Shell) (r : Request) {path : String} (h : path ∈ r.file?) :
  (s.begun r).text? (.file path) = some ""
  := by
  rw [Option.mem_def] at h
  simp only [begun, text?, h]
  apply Files.read?_write

theorem Shell.setUp_eq (s : Shell) (r : Request) :
  s.setUp r.level r.logFile = (s.begun r).log .initialized
  := by
  rw [setUp, Logger.setUp_eq]
  rfl

/-- A request is served as the compilation of its descriptors says. -/
theorem Shell.serve_of_compilation {r : Request} {cs : List (Cylinder Float)} {rs : List Record}
    {ending : Ending} (h : Compilation r.strict r.descriptors cs rs ending) (s : Shell) :
  s.serve r
    = (((s.begun r).logAll (.initialized :: rs)).printAll (cs.map Printed.summary), ending)
  := by
  change (s.setUp r.level r.logFile).compileAll r.strict r.descriptors = _
  rw [setUp_eq, compileAll_of_compilation h]
  rfl

namespace Session

variable {host : Host} {arguments : List String} {r : Request} {cs : List (Cylinder Float)}
  {rs : List Record} {ending : Ending}

theorem run_of_request (session : Session)
    (h : parseArguments host.rules arguments = .ok (.request r)) :
  session.run arguments host
    = (((Shell.start host session).serve r).1.session,
      ⟨((Shell.start host session).serve r).2, ((Shell.start host session).serve r).1.printed,
        ((Shell.start host session).serve r).1.errors⟩)
  := by
  rw [run, h]

/-- A run does what the compilation of its descriptors says: it prints the summaries of the
cylinders and writes the records to the console and to the log file. -/
theorem run_of_compilation (session : Session)
    (h : parseArguments host.rules arguments = .ok (.request r))
    (hc : Compilation r.strict r.descriptors cs rs ending) :
  (session.run arguments host).2
      = ⟨ending, cs.map Printed.summary, logText host r.level 0 (.initialized :: rs)⟩ ∧
    ∀ path ∈ r.file?, (session.run arguments host).1.files.read? path
      = some (logText host r.level 0 (.initialized :: rs))
  := by
  let begun := (Shell.start host session).begun r
  have hlogger : begun.session.logger = Logger.ofRequest r.level r.file? := rfl
  have hprinted := begun.printed_logAll (.initialized :: rs)
  rw [run_of_request session h, Shell.serve_of_compilation hc]
  constructor
  · have herrors : some (begun.logAll (.initialized :: rs)).errors
        = some ("" ++ logText host r.level 0 _) :=
      Shell.text?_logAll hlogger List.mem_cons_self rfl (.initialized :: rs)
    rw [String.empty_append] at herrors
    apply congrArg₂ (Outcome.mk ending)
    · apply (congrArg (· ++ cs.map Printed.summary) hprinted).trans
      apply List.nil_append
    · apply Option.some.inj herrors
  · intro path hpath
    have hsink : Sink.file path ∈ sinksOf r.file? := by
      rw [Option.mem_def] at hpath
      simp [sinksOf, hpath]
    have hfile :=
      Shell.text?_logAll hlogger hsink (Shell.text?_begun _ r hpath) (.initialized :: rs)
    rw [String.empty_append] at hfile
    apply hfile

/-- Requests whose descriptors have the same compilation are served in the same way if they agree in
all else. -/
theorem run_congr (session : Session)
    (h : parseArguments host.rules arguments = .ok (.request r))
    (hc : Compilation r.strict r.descriptors cs rs ending) {arguments' : List String}
    {ds : List String}
    (h' : parseArguments host.rules arguments' = .ok (.request { r with descriptors := ds }))
    (hc' : Compilation r.strict ds cs rs ending) :
  session.run arguments' host = session.run arguments host
  := by
  have hserve (s : Shell) : s.serve { r with descriptors := ds } = s.serve r :=
    (Shell.serve_of_compilation hc' s).trans (Shell.serve_of_compilation hc s).symm
  rw [run_of_request session h', run_of_request session h, hserve]

end Session

/-! ### Records of compilations -/

theorem level_of_mem_noteRecords {strict : Bool} {ds : List String} {record : Record}
    (h : record ∈ ds.flatMap (noteRecords strict)) :
  record.level = .debug
  := by
  obtain ⟨d, -, hd⟩ := List.mem_flatMap.mp h
  obtain ⟨n, -, rfl⟩ := List.mem_map.mp hd
  apply Record.level_ofNote

/-- No note is an error. -/
theorem filter_error_noteRecords (strict : Bool) (ds : List String) :
  (ds.flatMap (noteRecords strict)).filter (fun record => record.level = .error) = []
  := by
  rw [List.filter_eq_nil_iff]
  intro record hrecord
  simp [level_of_mem_noteRecords hrecord]

/-- Notes are written only if everything is logged. -/
theorem logText_warning_noteRecords (host : Host) (strict : Bool) (ds : List String) :
  logText host .warning 0 (.initialized :: ds.flatMap (noteRecords strict)) = ""
  := by
  apply logText_eq_empty
  rw [List.forall_mem_cons]
  refine ⟨by decide, ?_⟩
  intro record hrecord
  rw [level_of_mem_noteRecords hrecord]
  decide

theorem Compiles.exists_of_forall₂ {strict : Bool} {ds : List String} {cs : List (Cylinder Float)}
    (h : List.Forall₂ (Compiles strict) ds cs) :
  ∀ d ∈ ds, ∃ c, Compiles strict d c
  := by
  induction h with
  | nil => exact nofun
  | cons hd h ih => exact List.forall_mem_cons.mpr ⟨⟨_, hd⟩, ih⟩

/-- A compilation ends without a failure exactly if all descriptors are compiled. -/
theorem Compilation.ending_eq_iff {strict : Bool} {ds : List String} {cs : List (Cylinder Float)}
    {rs : List Record} {ending : Ending} (h : Compilation strict ds cs rs ending) :
  ending = .exit 0 ↔ ∀ d ∈ ds, ∃ c, Compiles strict d c
  := by
  have hfails {front back : List String} {d : String} {f : Fault Float}
      (hd : (Cylinder.compile strict d : Traced Float (Cylinder Float)).outcome = .error f) :
      ¬ ∀ d' ∈ front ++ d :: back, ∃ c, Compiles strict d' c := by
    intro hall
    obtain ⟨c, hc⟩ := hall d (List.mem_append_right front List.mem_cons_self)
    rw [Compiles, hd] at hc
    cases hc
  cases h with
  | complete h =>
    exact ⟨fun _ => Compiles.exists_of_forall₂ h, fun _ => rfl⟩
  | rejected h hd hf back => exact ⟨nofun, fun hall => absurd hall (hfails hd)⟩
  | escaped h hd hf back => exact ⟨nofun, fun hall => absurd hall (hfails hd)⟩

theorem Compilation.logText_warning {strict : Bool} {ds : List String}
    {cs : List (Cylinder Float)} {rs : List Record} (h : Compilation strict ds cs rs (.exit 0))
    (host : Host) :
  logText host .warning 0 (.initialized :: rs) = ""
  := by
  cases h with
  | complete h => apply logText_warning_noteRecords

/-- A compilation that ends with a failure ends at the first descriptor that fails, and the
descriptors after it have no part in it. -/
theorem Compilation.exists_failure {strict : Bool} {ds : List String} {cs : List (Cylinder Float)}
    {rs : List Record} {ending : Ending} (h : Compilation strict ds cs rs ending)
    (hending : ending ≠ .exit 0) :
  ∃ front d back f, ds = front ++ d :: back ∧ List.Forall₂ (Compiles strict) front cs ∧
    (Cylinder.compile strict d : Traced Float (Cylinder Float)).outcome = .error f ∧
    (f.isRejection = true → ending = .exit 1 ∧
      rs.filter (fun record => record.level = .error) = [Shell.rejection d f] ∧
      ∀ host, logText host .warning 0 (.initialized :: rs)
        = (Shell.rejection d f).line (host.time? rs.length)) ∧
    (f.isRejection = false → ending = .escaped f ∧
      rs.filter (fun record => record.level = .error) = []) ∧
    ∀ back', Compilation strict (front ++ d :: back') cs rs ending
  := by
  cases h with
  | complete h => cases hending rfl
  | @rejected front cs d f h hd hf back =>
    refine ⟨front, d, back, f, rfl, h, hd, ?_, ?_, .rejected h hd hf⟩
    · intro _
      refine ⟨rfl, ?_, ?_⟩
      · rw [List.filter_append, filter_error_noteRecords]
        rfl
      · intro host
        have hreaches : (Shell.rejection d f).level.reaches .warning = true := rfl
        rw [← List.cons_append, logText_append, logText_warning_noteRecords, String.empty_append,
          logText_cons, if_pos hreaches, List.length_append, List.length_cons, Nat.zero_add]
        apply String.append_empty
    · rw [hf]
      exact nofun
  | @escaped front cs d f h hd hf back =>
    refine ⟨front, d, back, f, rfl, h, hd, ?_, ?_, .escaped h hd hf⟩
    · rw [hf]
      exact nofun
    · intro _
      exact ⟨rfl, filter_error_noteRecords strict _⟩

/-! ### A cylinder that is compiled -/

/-- The cylinder of radius one around the origin. -/
def unitCylinder : Cylinder Float :=
  ⟨"Cylinder", { CylinderSpec.initial with dx := 1, dy := 1 }, .identity, []⟩

theorem determinant_eq_one {K : Type} [Scalar K] {e : Elimination K}
    (hform : e.isSingular = false ∧ e.sign = 1 ∧ e.pivots = [1, 1, 1])
    (hunits : Scalar.abs (1 : K) = 1 ∧ (0 : K) + 0 = 0 ∧ (1 : K) * 1 = 1)
    (hlog : Scalar.log (1 : K) = 0) (hexp : Scalar.exp (0 : K) = 1) :
  e.determinant = 1
  := by
  simp only [Elimination.determinant, hform.1, hform.2.1, hform.2.2, List.map_cons, List.map_nil,
    List.foldl_cons, List.foldl_nil, hunits.1, hlog, hunits.2.1, hexp, hunits.2.2,
    Bool.false_eq_true, if_false]

/-- The logarithm and the exponential of doubles are not computed in proofs; where they are right
for one and zero, the identity has an inverse. -/
theorem isInvertible_identity (hlog : Float.log 1.0 = 0.0) (hexp : Float.exp 0.0 = 1.0) :
  (AffineMap.identity : AffineMap Float).isInvertible = true
  := by
  have hdet : (Elimination.ofMatrix Matrix3.identity : Elimination Float).determinant = 1 := by
    apply determinant_eq_one
    · decide +kernel
    · decide +kernel
    · apply hlog
    · apply hexp
  have hlt : Scalar.lt Scalar.epsilon (Scalar.abs (1 : Float)) = true := by decide +kernel
  rw [AffineMap.isInvertible, Matrix3.isInvertible, AffineMap.identity, Matrix3.det, hdet]
  apply hlt

theorem compiles_unitCylinder (hlog : Float.log 1.0 = 0.0) (hexp : Float.exp 0.0 = 1.0) :
  Compiles false "Cylinder: r=1" unitCylinder
  := by
  have hparse : Descriptor.parse (K := Float) "Cylinder: r=1" = .ok ⟨"Cylinder", "r=1"⟩ := by
    cbv
  have hone : (evaluateScalar "1" : Except (Fault Float) Float) = .ok 1 :=
    evaluateScalar_eq_ok_iff.mpr
      ⟨by decide, .numeral ⟨.whole 1 [], none⟩, by cbv, by decide +kernel, by decide +kernel⟩
  have hforms : Clause.formsOf "r=1" = [.radius "1"] := by
    cbv
  have hradius : (ClauseForm.radius "1").change = .ok (.radius (1 : Float)) := by
    rw [ClauseForm.change, hone]
    rfl
  have hspec : ((Cylinder.described "Cylinder").interpret false "r=1").outcome
      = .ok unitCylinder.spec := by
    rw [CylinderSpec.outcome_interpret, hforms, List.mapM_cons, hradius]
    rfl
  have hinvertible := isInvertible_identity hlog hexp
  have horientation : unitCylinder.spec.orientation.outcome = .ok .identity := by
    decide +kernel
  have hplacement : unitCylinder.spec.placement.outcome = .ok .identity := by
    have hmap : (⟨.identity, unitCylinder.spec.origin.toVec⟩ : AffineMap Float) = .identity := rfl
    rw [CylinderSpec.placement, Traced.outcome_bind, horientation, Outcome.ok_bind]
    simp only [hmap]
    rw [if_pos hinvertible]
    rfl
  rw [Compiles, Cylinder.outcome_compile, hparse, Outcome.ok_bind, hspec, Outcome.ok_bind,
    Cylinder.assemble, Traced.outcome_bind, hplacement, Outcome.ok_bind, Traced.outcome_bind,
    Traced.outcome_lift, Cylinder.localBounds, AffineMap.inverse, AffineMap.inverseLinear,
    if_pos hinvertible]
  rfl

theorem summary_unitCylinder :
  unitCylinder.summary Decimal.Format.json.write
    = "\x7b\"kind\": \"cylinder\", \"type_name\": \"Cylinder\", \"origin\": [0.0, 0.0, 0.0], " ++
      "\"axis\": [0.0, 0.0, 1.0], \"dx\": 1.0, \"dy\": 1.0, \"dz\": 0.0, " ++
      "\"transform\": \x7b\"linear\": [[1.0, 0.0, 0.0], [0.0, 1.0, 0.0], [0.0, 0.0, 1.0]], " ++
      "\"translation\": [0.0, 0.0, 0.0]\x7d, \"bounds\": []\x7d"
  := by
  decide +kernel

/-! ### Runs -/

/-- A run prints the summaries of the cylinders up to the first descriptor that fails, and nothing
else.  Each is a JSON document on a line of its own, which describes the cylinder; its numbers stand
for the doubles.  The run ends with status 0 exactly if no descriptor fails.  If the first one that
fails is rejected, it ends with status 1 and logs one error, which names the descriptor and the
failure.  The descriptors after it have no influence on the run, and what is logged has none on what
is printed and on the status. -/
theorem Session.run_request (session : Session) (host : Host) {arguments : List String}
    {r : Request} (h : parseArguments host.rules arguments = .ok (.request r)) :
  ∃ cs rs ending,
    Compilation r.strict r.descriptors cs rs ending ∧
    (session.run arguments host).2
      = ⟨ending, cs.map Printed.summary, logText host r.level 0 (.initialized :: rs)⟩ ∧
    (∀ path ∈ r.file?, (session.run arguments host).1.files.read? path
      = some (logText host r.level 0 (.initialized :: rs))) ∧
    (session.run arguments host).2.output Decimal.Format.json.write
      = String.join (cs.map fun c => c.summary Decimal.Format.json.write ++ "\n") ∧
    (∀ c ∈ cs, Text.IsLine (c.summary Decimal.Format.json.write) ∧
      Document.read? (c.summary Decimal.Format.json.write)
        = some (c.document Decimal.Format.json.write)) ∧
    (∀ x, Decimal.StandsFor (Decimal.Format.json.write x) x) ∧
    (ending = .exit 0 ↔ ∀ d ∈ r.descriptors, ∃ c, Compiles r.strict d c) ∧
    (ending = .exit 0 → r.verbose = false → logText host r.level 0 (.initialized :: rs) = "") ∧
    (ending ≠ .exit 0 → ∃ front d back f, r.descriptors = front ++ d :: back ∧
      List.Forall₂ (Compiles r.strict) front cs ∧
      (Cylinder.compile r.strict d : Traced Float (Cylinder Float)).outcome = .error f ∧
      (f.isRejection = true → ending = .exit 1 ∧
        rs.filter (fun record => record.level = .error) = [Shell.rejection d f] ∧
        (r.verbose = false → logText host r.level 0 (.initialized :: rs)
          = (Shell.rejection d f).line (host.time? rs.length))) ∧
      (f.isRejection = false → ending = .escaped f ∧
        rs.filter (fun record => record.level = .error) = []) ∧
      ∀ back' arguments', parseArguments host.rules arguments'
          = .ok (.request { r with descriptors := front ++ d :: back' }) →
        session.run arguments' host = session.run arguments host) ∧
    ∀ (session' : Session) (host' : Host) (arguments' : List String) (r' : Request),
      parseArguments host'.rules arguments' = .ok (.request r') →
      r'.descriptors = r.descriptors → r'.strict = r.strict →
      (session'.run arguments' host').2.ending = ending ∧
        (session'.run arguments' host').2.printed = cs.map Printed.summary
  := by
  obtain ⟨cs, rs, ending, hc⟩ := exists_compilation r.strict r.descriptors
  obtain ⟨hrun, hfile⟩ := session.run_of_compilation h hc
  refine ⟨cs, rs, ending, hc, hrun, hfile, ?_, ?_, Decimal.Format.standsFor_write,
    hc.ending_eq_iff, ?_, ?_, ?_⟩
  · rw [hrun, Outcome.output, List.map_map]
    rfl
  · intro c _
    have hsummary := c.writes_summary Decimal.Format.isNumber_write
    exact ⟨hsummary.isLine, hsummary.reads.read?_eq⟩
  · rintro rfl hverbose
    rw [Request.level, hverbose]
    apply hc.logText_warning
  · intro hending
    obtain ⟨front, d, back, f, hds, hfront, hd, hreject, hescape, hback⟩ :=
      hc.exists_failure hending
    refine ⟨front, d, back, f, hds, hfront, hd, ?_, hescape, ?_⟩
    · intro hf
      obtain ⟨hexit, herror, htext⟩ := hreject hf
      refine ⟨hexit, herror, ?_⟩
      intro hverbose
      rw [Request.level, hverbose]
      apply htext
    · intro back' arguments' h'
      apply session.run_congr h hc h' (hback back')
  · intro session' host' arguments' r' h' hds hstrict
    rw [← hds, ← hstrict] at hc
    rw [(session'.run_of_compilation h' hc).1]
    exact ⟨rfl, rfl⟩

/-- The first descriptor is compiled and printed, the second has no header, and the third is left
out.  The log file is named by the text after an equals sign.  The placement of the first cylinder
has an inverse since the logarithm of one is zero and the exponential of zero is one. -/
theorem Session.run_request_of_headerless :
  parseArguments .newer ["Cylinder: r=1", "Cylinder r=5", "Cylinder: r=2", "--log=log"]
      = .ok (.request
        ⟨["Cylinder: r=1", "Cylinder r=5", "Cylinder: r=2"], false, false, some "log"⟩) ∧
    (Float.log 1.0 = 0.0 → Float.exp 0.0 = 1.0 →
      let run := initial.run ["Cylinder: r=1", "Cylinder r=5", "Cylinder: r=2", "--log=log"]
        ⟨.newer, some fun _ => ⟨12, 34, 56⟩⟩
      run.2.ending = .exit 1 ∧
      run.2.output Decimal.Format.json.write
        = "\x7b\"kind\": \"cylinder\", \"type_name\": \"Cylinder\", \"origin\": [0.0, 0.0, 0.0], " ++
          "\"axis\": [0.0, 0.0, 1.0], \"dx\": 1.0, \"dy\": 1.0, \"dz\": 0.0, " ++
          "\"transform\": \x7b\"linear\": [[1.0, 0.0, 0.0], [0.0, 1.0, 0.0], [0.0, 0.0, 1.0]], " ++
          "\"translation\": [0.0, 0.0, 0.0]\x7d, \"bounds\": []\x7d\n" ∧
      run.2.errors = "12:34:56 - forbildshapes.cli - ERROR - " ++
        "Cannot compile 'Cylinder r=5': Descriptor 'Cylinder r=5' has no 'TypeName:' header.\n" ∧
      run.1.files.read? "log" = some run.2.errors)
  := by
  have hparse : parseArguments .newer
      ["Cylinder: r=1", "Cylinder r=5", "Cylinder: r=2", "--log=log"]
      = .ok (.request
        ⟨["Cylinder: r=1", "Cylinder r=5", "Cylinder: r=2"], false, false, some "log"⟩) := by
    have hwords : Word.ofArguments ["Cylinder: r=1", "Cylinder r=5", "Cylinder: r=2", "--log=log"]
        = .ok [.plain "Cylinder: r=1", .plain "Cylinder r=5", .plain "Cylinder: r=2",
          .option ⟨.logFile, false, some "log".toList, true⟩] := by
      rfl
    rw [parseArguments, hwords, Outcome.ok_bind]
    cbv
  refine ⟨hparse, ?_⟩
  intro hlog hexp
  have hfirst := compiles_unitCylinder hlog hexp
  have hsecond : (Cylinder.compile false "Cylinder r=5" : Traced Float (Cylinder Float)).outcome
      = .error (.header .noHeader "Cylinder r=5") := by
    have hheader : Descriptor.parse (K := Float) "Cylinder r=5"
        = .error (.header .noHeader "Cylinder r=5") := by
      cbv
    rw [Cylinder.outcome_compile, hheader, Outcome.error_bind]
  have hnot (c : Cylinder Float) : ¬ Compiles false "Cylinder r=5" c := by
    rw [Compiles, hsecond]
    intro h
    cases h
  obtain ⟨cs, rs, ending, -, hrun, hfile, houtput, -, -, hexit, -, hfailure, -⟩ :=
    run_request initial ⟨.newer, some fun _ => ⟨12, 34, 56⟩⟩ hparse
  have hending : ending ≠ .exit 0 := by
    rintro hzero
    obtain ⟨c, hc⟩ := hexit.mp hzero "Cylinder r=5" (by simp)
    apply hnot c hc
  obtain ⟨front, d, back, f, hds, hfront, hd, hreject, -⟩ := hfailure hending
  have hsplit : d = "Cylinder r=5" ∧ cs = [unitCylinder] := by
    cases hfront with
    | nil =>
      obtain ⟨rfl, -⟩ := List.cons.inj hds
      rw [Compiles, hd] at hfirst
      cases hfirst
    | cons hc hfront =>
      obtain ⟨rfl, hrest⟩ := List.cons.inj hds
      obtain rfl := Except.ok.inj (hc.symm.trans hfirst)
      cases hfront with
      | nil => exact ⟨(List.cons.inj hrest).1.symm, rfl⟩
      | cons hc' _ =>
        obtain ⟨rfl, -⟩ := List.cons.inj hrest
        cases hnot _ hc'
  obtain ⟨rfl, rfl⟩ := hsplit
  obtain rfl := Except.error.inj (hsecond.symm.trans hd)
  obtain ⟨rfl, -, htext⟩ := hreject rfl
  refine ⟨congrArg Outcome.ending hrun, ?_, ?_, ?_⟩
  · rw [houtput, List.map_singleton, summary_unitCylinder]
    decide +kernel
  · have hline : Record.line (some ⟨12, 34, 56⟩)
        (Shell.rejection "Cylinder r=5" (.header .noHeader "Cylinder r=5"))
        = "12:34:56 - forbildshapes.cli - ERROR - " ++
          "Cannot compile 'Cylinder r=5': Descriptor 'Cylinder r=5' has no 'TypeName:' header.\n"
        := by
      decide +kernel
    rw [hrun]
    apply (htext rfl).trans hline
  · rw [hfile "log" rfl, hrun]

end ClippedCylinder.CommandLine
