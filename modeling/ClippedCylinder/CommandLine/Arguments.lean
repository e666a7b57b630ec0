import ClippedCylinder.Text.Blank
import ClippedCylinder.Text.Quoted

/-!
# Arguments

The arguments of the command line are options and descriptors in any order.  Options that
are words may be shortened as long as only one word is meant.  Options that are letters may
share a dash; there are two sets of rules for what else may stand there, and a host follows
one of them.  All arguments after a double dash are descriptors.  The descriptors have to
stand together.
-/

namespace ClippedCylinder.CommandLine

/-- The options. -/
inductive Switch where
  /-- Show the help text. -/
  | help
  /-- Refuse unknown clauses. -/
  | strict
  /-- Log everything. -/
  | verbose
  /-- Write the log to a file as well. -/
  | logFile
deriving DecidableEq, Repr

/-- What the user asks for. -/
structure Request where
  descriptors : List String
  strict : Bool
  verbose : Bool
  logFile : Option String
deriving DecidableEq, Repr

/-- Why the arguments are refused. -/
inductive UsageFault where
  /-- There is no descriptor. -/
  | noDescriptor
  /-- A value is given to an option that takes none. -/
  | ignoredValue (option : Switch) (value : String)
  /-- An option that takes a value is given none. -/
  | missingValue (option : Switch)
  /-- A shortened word stands for more than one option. -/
  | ambiguous (argument : String) (candidates : List String)
  /-- Arguments that are neither options nor descriptors. -/
  | unrecognized (arguments : List String)
deriving DecidableEq, Repr

namespace Switch

/-- The ways of writing options, in order. -/
def spellings : List (List Char × Switch) :=
  [(['-', 'h'], help), ("--help".toList, help), ("--strict".toList, strict),
    (['-', 'v'], verbose), ("--verbose".toList, verbose), ("--log-file".toList, logFile)]

/-- The option written in full as the given characters. -/
def ofSpelling? (cs : List Char) : Option Switch :=
  spellings.lookup cs

/-- Whether the option takes a value. -/
def takesValue : Switch → Bool
  | logFile => true
  | _ => false

/-- The option in messages about it. -/
def label : Switch → String
  | help => "-h/--help"
  | strict => "--strict"
  | verbose => "-v/--verbose"
  | logFile => "--log-file"

end Switch

/-- The wording of a refusal. -/
def UsageFault.message : UsageFault → String
  | noDescriptor => "the following arguments are required: DESCRIPTOR"
  | ignoredValue o value => s!"argument {o.label}: ignored explicit argument {Text.quoted value}"
  | missingValue o => s!"argument {o.label}: expected one argument"
  | ambiguous argument candidates =>
    s!"ambiguous option: {argument} could match " ++ ", ".intercalate candidates
  | unrecognized arguments => "unrecognized arguments: " ++ " ".intercalate arguments

/-! ### Words -/

/-- An option as it is used: whether it is a letter, the text attached to it, and whether that
text stands after an equals sign. -/
structure OptionUse where
  option : Switch
  isLetter : Bool
  attached : Option (List Char)
  afterEquals : Bool
deriving DecidableEq, Repr

/-- The part that an argument plays. -/
inductive Word where
  /-- A descriptor, or the value of an option. -/
  | plain (text : String)
  /-- The double dash. -/
  | separator
  /-- An option. -/
  | option (use : OptionUse)
  /-- Something that looks like an option but is none. -/
  | unknown (text : String)
deriving DecidableEq, Repr

namespace Word

/-- Whether the characters, without a line break at their end, are a minus and decimal
digits, with a point among or before them if anywhere. -/
def isNegativeNumber : List Char → Bool
  | '-' :: cs =>
    let cs := if cs.getLast? = some '\n' then cs.dropLast else cs
    let whole := cs.takeWhile Text.isDecimalDigit
    match cs.dropWhile Text.isDecimalDigit with
    | [] => !whole.isEmpty
    | '.' :: fraction => !fraction.isEmpty && fraction.all Text.isDecimalDigit
    | _ => false
  | _ => false

/-- The options that an argument beginning with a dash could stand for, with their full
spellings. -/
def candidates (cs : List Char) : List (List Char × OptionUse) :=
  match cs with
  | '-' :: '-' :: _ =>
    let (start, attached) :=
      match Text.cut '=' cs with
      | some (front, back) => (front, some back)
      | none => (cs, none)
    (Switch.spellings.filter fun (spelling, _) => start.isPrefixOf spelling).map
      fun (spelling, o) => (spelling, ⟨o, false, attached, attached.isSome⟩)
  | '-' :: c :: rest =>
    (Switch.spellings.filter fun (spelling, _) => spelling = ['-', c]).map
      fun (spelling, o) => (spelling, ⟨o, true, some rest, false⟩)
  | _ => []

/-- An option written in full, alone or with a value after an equals sign. -/
def inFull? (cs : List Char) : Option OptionUse :=
  let isLetter := !("--".toList.isPrefixOf cs)
  match Switch.ofSpelling? cs with
  | some o => some ⟨o, isLetter, none, false⟩
  | none =>
    match Text.cut '=' cs with
    | some (front, back) =>
      (Switch.ofSpelling? front).map fun o => ⟨o, isLetter, some back, true⟩
    | none => none

/-- The part of an argument that stands before any double dash. -/
def classify (s : String) : Except UsageFault Word :=
  let cs := s.toList
  if cs.head? ≠ some '-' || cs.length = 1 then .ok (plain s)
  else
    match inFull? cs with
    | some u => .ok (option u)
    | none =>
      match candidates cs with
      | [(_, u)] => .ok (option u)
      | [] =>
        if isNegativeNumber cs || cs.contains ' ' then .ok (plain s) else .ok (unknown s)
      | several => .error (.ambiguous s (several.map fun (spelling, _) => String.ofList spelling))

/-- The parts of the arguments. -/
def ofArguments : List String → Except UsageFault (List Word)
  | [] => .ok []
  | s :: ss =>
    if s = "--" then .ok (separator :: ss.map plain)
    else do
      let w ← classify s
      let ws ← ofArguments ss
      return w :: ws

/-- Whether the word can stand among descriptors. -/
def isOperand : Word → Bool
  | plain _ | separator => true
  | _ => false

/-- The argument of a word that can stand among descriptors. -/
def text? : Word → Option String
  | plain s => some s
  | separator => some "--"
  | _ => none

end Word

/-! ### Options that share a dash -/

/-- The rules for the text attached to an option. -/
inductive OptionRules where
  /-- All characters attached to a letter have to be options. -/
  | older
  /-- What stands after an equals sign or begins with a dash is a value, which no letter takes.
  Other characters are options up to the first that is none; the rest is an extra argument. -/
  | newer
deriving DecidableEq, Repr

namespace OptionRules

/-- The options that a letter with attached characters stands for by the older rules. -/
def olderLetters (o : Switch) : List Char → Except UsageFault (List Switch)
  | [] => .error (.ignoredValue o "")
  | c :: rest =>
    match Switch.ofSpelling? ['-', c] with
    | none => .error (.ignoredValue o (String.ofList (c :: rest)))
    | some o' =>
      if rest.isEmpty then .ok [o, o']
      else do
        let os ← olderLetters o' rest
        return o :: os

/-- The options that a letter with attached characters stands for by the newer rules, and the
extra argument that is left. -/
def newerLetters (o : Switch) (afterEquals : Bool) :
    List Char → Except UsageFault (List Switch × List String)
  | [] => .error (.ignoredValue o "")
  | c :: rest =>
    if afterEquals || c = '-' then .error (.ignoredValue o (String.ofList (c :: rest)))
    else
      match Switch.ofSpelling? ['-', c] with
      | none => .ok ([o], [String.ofList ('-' :: c :: rest)])
      | some o' =>
        match rest with
        | [] => .ok ([o, o'], [])
        | '=' :: value => do
          let (os, extras) ← newerLetters o' true value
          return (o :: os, extras)
        | rest => do
          let (os, extras) ← newerLetters o' false rest
          return (o :: os, extras)

/-- The options that a letter with attached characters stands for, and the extra arguments. -/
def letters (rules : OptionRules) (o : Switch) (afterEquals : Bool) (cs : List Char) :
    Except UsageFault (List Switch × List String) :=
  match rules with
  | older => (olderLetters o cs).map (·, [])
  | newer => newerLetters o afterEquals cs

/-- The log file that is named by the text attached to its option; by the older rules the double
dash names none. -/
def fileName? (rules : OptionRules) (s : String) : Option String :=
  match rules with
  | older => if s = "--" then none else some s
  | newer => some s

end OptionRules

/-! ### Parsing -/

/-- What the arguments so far ask for. -/
structure Progress where
  descriptors : Option (List String)
  strict : Bool
  verbose : Bool
  logFile : Option String
  /-- The arguments that are neither options nor descriptors. -/
  extras : List String
deriving DecidableEq, Repr

/-- What the arguments ask for. -/
inductive Parsed where
  /-- The help text. -/
  | help
  /-- A compilation. -/
  | request (r : Request)
deriving DecidableEq, Repr

namespace Progress

/-- Nothing is asked for. -/
def start : Progress :=
  ⟨none, false, false, none, []⟩

/-- Takes options without a value into account, unless one of them asks for help. -/
def addSwitches (p : Progress) : List Switch → Option Progress
  | [] => some p
  | .help :: _ => none
  | .strict :: os => { p with strict := true }.addSwitches os
  | .verbose :: os => { p with verbose := true }.addSwitches os
  | .logFile :: os => p.addSwitches os

/-- Takes adjacent descriptors into account.  The double dash among them is dropped; they
are extra arguments if there are descriptors already, or if only the double dash is there. -/
def addOperands (p : Progress) (ws : List Word) : Progress :=
  let texts := ws.filterMap Word.text?
  if p.descriptors.isNone && ws.any (· != .separator) then
    { p with descriptors := some ((ws.erase .separator).filterMap Word.text?) }
  else { p with extras := p.extras ++ texts }

/-- What is asked for in the end. -/
def finish (p : Progress) : Except UsageFault Parsed :=
  match p.descriptors with
  | none => .error .noDescriptor
  | some descriptors =>
    if p.extras.isEmpty then .ok (.request ⟨descriptors, p.strict, p.verbose, p.logFile⟩)
    else .error (.unrecognized p.extras)

/-- Takes an option into account, whose value may be the first of the words after it.  Gives
the words that are left, or nothing if help is asked for. -/
def addOption (rules : OptionRules) (p : Progress) (u : OptionUse) (after : List Word) :
    Except UsageFault (Option (Progress × Nat)) :=
  match u.attached with
  | some cs =>
    if u.option.takesValue then
      .ok (some ({ p with logFile := rules.fileName? (String.ofList cs) }, 0))
    else if u.isLetter then do
      let (os, extras) ← rules.letters u.option u.afterEquals cs
      return (p.addSwitches os).map fun p => ({ p with extras := p.extras ++ extras }, 0)
    else .error (.ignoredValue u.option (String.ofList cs))
  | none =>
    if u.option.takesValue then
      match after with
      | .plain s :: _ => .ok (some ({ p with logFile := some s }, 1))
      | _ => .error (.missingValue u.option)
    else .ok ((p.addSwitches [u.option]).map (·, 0))

/-- Takes the words into account from first to last. -/
def addWords (rules : OptionRules) (p : Progress) (ws : List Word) : Except UsageFault Parsed :=
  match ws with
  | [] => p.finish
  | .unknown s :: rest => { p with extras := p.extras ++ [s] }.addWords rules rest
  | .option u :: rest => do
    match ← p.addOption rules u rest with
    | none => return .help
    | some (p, used) => p.addWords rules (rest.drop used)
  | w :: rest =>
    (p.addOperands (w :: rest.takeWhile Word.isOperand)).addWords rules
      (rest.dropWhile Word.isOperand)
termination_by ws.length
decreasing_by
  · simp
  · simp only [List.length_drop, List.length_cons]
    omega
  · have := (List.dropWhile_suffix Word.isOperand : rest.dropWhile _ <:+ rest).length_le
    simp only [List.length_cons]
    omega

end Progress

/-- What the arguments ask for. -/
def parseArguments (rules : OptionRules) (arguments : List String) :
    Except UsageFault Parsed := do
  let ws ← Word.ofArguments arguments
  Progress.start.addWords rules ws

/-! ### Texts -/

/-- How the command is called. -/
def usage : String :=
  "usage: forbildshapes [-h] [--strict] [-v] [--log-file LOG_FILE]\n" ++
  "                     DESCRIPTOR [DESCRIPTOR ...]\n"

/-- The help text. -/
def helpText : String :=
  usage ++
  "\n" ++
  "Compile FORBILD cylinder descriptors and print them as JSON.\n" ++
  "\n" ++
  "positional arguments:\n" ++
  "  DESCRIPTOR           e.g. \"Cylinder_x: x=1; r=3; l=1; z<0.5\"\n" ++
  "\n" ++
  "options:\n" ++
  "  -h, --help           show this help message and exit\n" ++
  "  --strict             reject unknown clauses instead of skipping them\n" ++
  "  -v, --verbose        enable debug logging\n" ++
  "  --log-file LOG_FILE  also write the log to this file\n"

/-- What is said when the arguments are refused. -/
def refusal (cause : UsageFault) : String :=
  usage ++ s!"forbildshapes: error: {cause.message}\n"

end ClippedCylinder.CommandLine
