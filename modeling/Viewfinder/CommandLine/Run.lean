import Viewfinder.CommandLine.Options
import Viewfinder.Settings.File
import Viewfinder.Tour

/-!
# The command line

What the program does for a command line: it shows or checks settings, or it takes the tour of the
camera that its options plan. `CommandLine.run` says so as a `Program`, with the exit code and what
is printed.
-/

namespace Viewfinder.CommandLine

structure Report where
  exitCode : UInt8 := 0
  output : String := ""
  errors : String := ""
deriving DecidableEq, Repr

namespace Report

def print (s : String) : Report := { output := s ++ "\n" }

/-- Failure with an error, below which its cause is told, if it has one. -/
def failure (message : String) (cause : Option String) : Report where
  exitCode := 1
  errors := s!"Error: {message}\n" ++ cause.elim "" fun c => s!"\nCaused by:\n    {c}\n"

/-- Print a warning before anything else. -/
def warn (warning : Option String) (r : Report) : Report :=
  { r with errors := (warning.elim "" (· ++ "\n")) ++ r.errors }

end Report

def versionText : String := "quickcam 0.1.0"

def usageText : String := "Usage: quickcam [OPTIONS]"

def optionText (o : Opt) : String :=
  let letter := o.spelling.letter.elim "    " fun c => s!"-{c}, "
  let value := match o with
    | .switch _ => ""
    | .setting _ => " <VALUE>"
  s!"  {letter}--{o.spelling.long}{value}"

def helpText : String :=
  usageText ++ "\n\nOptions:\n" ++ "\n".intercalate (Opt.all.map optionText)

/-- The report on a command line that asks for help, or cannot be read. -/
def Stop.report : Stop → Report
  | .help => .print helpText
  | .version => .print versionText
  | .usage problem =>
    { exitCode := 2
      errors := s!"error: {problem}\n\n{usageText}\n\nFor more information, try '--help'.\n" }

/-- The settings file with all defaults. -/
def defaultFile : String :=
  "# quickcam configuration file\n" ++
  "# Every key is optional; values shown are the defaults.\n" ++
  "# Environment overrides use the QUICKCAM_ prefix, e.g. QUICKCAM_CAPTURE__JPEG_QUALITY=90\n\n" ++
  ({} : Settings).toToml

def checkReport (s : Settings) : Report :=
  match s.fault? with
  | none => .print "✓ Configuration is valid"
  | some fault =>
    { exitCode := 1, errors := s!"✗ Configuration validation failed: {fault.message}\n" }

def tourFailure (e : TourError) : Report :=
  .failure e.message (match e with
    | .notBuilt (.settings e) => some e.text
    | _ => none)

def tourReport (service : Simulator Ticket) : Report :=
  .print (s!"Session complete: {service.opens} opens, {service.releases} releases, " ++
    s!"at most {service.maxOpen} camera(s) open at once")

def Options.plan (o : Options) : TourPlan where
  viewport := ⟨o.viewportWidth, o.viewportHeight⟩
  degrees := o.deviceRotation
  swaps := o.swaps.toNat

/-- Write the picture to a path, if one is given. -/
def keep (image : CapturedImage) : Option String → Program (Option WriteFailure)
  | some path => Program.save path image.still.bytes
  | none => return none

/-- Take the tour, and keep the picture on the way. -/
def tour (o : Options) (settings : Settings) : Program Report :=
  match Tour.visit settings o.plan with
  | .error e => return tourFailure e
  | .ok (t, image) => do
    match ← keep image o.output with
    | some failure => return .failure failure.message none
    | none =>
      match t.finish with
      | .error e => return tourFailure e
      | .ok service => return tourReport service

/-- Check the settings that were loaded, or take the tour with them. -/
def useSettings (o : Options) : Except SettingsError Settings → Program Report
  | .error e => return .failure e.text none
  | .ok settings => if o.validateConfig then return checkReport settings else tour o settings

/-- The formats of log lines that there are. -/
def logFormats : List String := ["json", "pretty", "compact"]

def logWarning (o : Options) : Option String :=
  (o.logFormat.filter fun f => !logFormats.contains f).map fun f =>
    s!"Warning: Unknown log format '{f}', using default"

def runOptions (o : Options) (environment : List (String × String)) : Program Report :=
  if o.printConfig then return .print defaultFile
  else do
    let report ← useSettings o (← Settings.load o.config environment)
    return report.warn (logWarning o)

/-- What the program does for some words, with the variables of the environment. -/
def run (words : List String) (environment : List (String × String)) : Program Report :=
  match Options.parse words with
  | .error stop => return stop.report
  | .ok o => runOptions o environment

end Viewfinder.CommandLine
