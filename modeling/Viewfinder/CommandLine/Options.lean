import Viewfinder.Text.Number

/-!
# Options of the command line

Words are read from left to right. An option is written `--name value`, `--name=value` or, if it has
a letter, `-c value`, `-cvalue` or `-c=value`; the letters of several switches may share a dash. The
next word is the value of an option only if it does not itself look like an option. No option may be
given twice, and no other words are allowed. A request for help or for the version ends the reading.
-/

namespace Viewfinder.CommandLine

/-- Options without a value. -/
inductive Switch where
  | debug
  | verbose
  | quiet
  | validateConfig
  | printConfig
  | help
  | version
deriving DecidableEq, Repr

/-- Options with a value. -/
inductive Setting where
  | config
  | logFormat
  | swaps
  | viewportWidth
  | viewportHeight
  | deviceRotation
  | output
deriving DecidableEq, Repr

inductive Opt where
  | switch (s : Switch)
  | setting (s : Setting)
deriving DecidableEq, Repr

/-- The long name of an option and its letter, if it has one. -/
structure Spelling where
  long : String
  letter : Option Char := none

def Switch.spelling : Switch → Spelling
  | debug => ⟨"debug", 'd'⟩
  | verbose => ⟨"verbose", 'v'⟩
  | quiet => ⟨"quiet", 'q'⟩
  | validateConfig => ⟨"validate-config", none⟩
  | printConfig => ⟨"print-config", none⟩
  | help => ⟨"help", 'h'⟩
  | version => ⟨"version", 'V'⟩

def Setting.spelling : Setting → Spelling
  | config => ⟨"config", 'c'⟩
  | logFormat => ⟨"log-format", none⟩
  | swaps => ⟨"swaps", none⟩
  | viewportWidth => ⟨"viewport-width", none⟩
  | viewportHeight => ⟨"viewport-height", none⟩
  | deviceRotation => ⟨"device-rotation", none⟩
  | output => ⟨"output", 'o'⟩

namespace Opt

def all : List Opt :=
  [.switch .debug, .switch .verbose, .switch .quiet, .switch .validateConfig, .switch .printConfig,
    .switch .help, .switch .version, .setting .config, .setting .logFormat, .setting .swaps,
    .setting .viewportWidth, .setting .viewportHeight, .setting .deviceRotation, .setting .output]

def spelling : Opt → Spelling
  | switch s => s.spelling
  | setting s => s.spelling

def ofLong? (name : String) : Option Opt := all.find? (·.spelling.long = name)

def ofLetter? (c : Char) : Option Opt := all.find? (·.spelling.letter = some c)

end Opt

/-- What the options amount to. -/
structure Options where
  config : String := "quickcam.toml"
  validateConfig : Bool := false
  printConfig : Bool := false
  logFormat : Option String := none
  swaps : UInt32 := 2
  viewportWidth : UInt32 := 720
  viewportHeight : UInt32 := 1280
  deviceRotation : UInt32 := 0
  output : Option String := none
deriving DecidableEq, Repr

/-- Why the reading of a command line ended early. -/
inductive Stop where
  | help
  | version
  | usage (problem : String)
deriving DecidableEq, Repr

/-- The options so far, and which of them were given. -/
structure Reading where
  options : Options := {}
  given : List Opt := []

namespace Reading

/-- Options may be given once. -/
def note (r : Reading) (o : Opt) : Except Stop Reading :=
  if r.given.contains o then
    .error (.usage s!"the argument '--{o.spelling.long}' cannot be used multiple times")
  else .ok { r with given := o :: r.given }

def turnOn (r : Reading) (s : Switch) : Except Stop Reading := do
  let r ← r.note (.switch s)
  match s with
  | .help => throw .help
  | .version => throw .version
  | .validateConfig => return { r with options.validateConfig := true }
  | .printConfig => return { r with options.printConfig := true }
  | .debug | .verbose | .quiet => return r

/-- A number of 32 bits. -/
def word? (s : String) : Option UInt32 :=
  match Text.integer? s with
  | some n => if 0 ≤ n ∧ n < UInt32.size then some (UInt32.ofInt n) else none
  | none => none

def readWord (s : Setting) (value : String) : Except Stop UInt32 :=
  match word? value with
  | some n => .ok n
  | none => .error (.usage s!"invalid value '{value}' for '--{s.spelling.long}'")

def assign (r : Reading) (s : Setting) (value : String) : Except Stop Reading := do
  let r ← r.note (.setting s)
  match s with
  | .config => return { r with options.config := value }
  | .logFormat => return { r with options.logFormat := some value }
  | .swaps => return { r with options.swaps := ← readWord s value }
  | .viewportWidth => return { r with options.viewportWidth := ← readWord s value }
  | .viewportHeight => return { r with options.viewportHeight := ← readWord s value }
  | .deviceRotation => return { r with options.deviceRotation := ← readWord s value }
  | .output =>
    if value.isEmpty then throw (.usage "a value is required for '--output'")
    return { r with options.output := some value }

/-- Read a word that begins with a dash, letter by letter; the option that waits for its value in
the next word, if there is one. -/
def letters (r : Reading) : List Char → Except Stop (Reading × Option Setting)
  | [] => .ok (r, none)
  | c :: rest =>
    match Opt.ofLetter? c with
    | none => .error (.usage s!"unexpected argument '-{c}' found")
    | some (.switch s) => do letters (← r.turnOn s) rest
    | some (.setting s) =>
      match rest with
      | [] => .ok (r, some s)
      | '=' :: value => do return (← r.assign s (String.ofList value), none)
      | value => do return (← r.assign s (String.ofList value), none)

/-- Read a word after its two dashes. -/
def long (r : Reading) (body : List Char) : Except Stop (Reading × Option Setting) :=
  let name := String.ofList (body.takeWhile (· ≠ '='))
  match Opt.ofLong? name, body.dropWhile (· ≠ '=') with
  | none, _ => .error (.usage s!"unexpected argument '--{name}' found")
  | some (.switch s), [] => do return (← r.turnOn s, none)
  | some (.switch _), _ => .error (.usage s!"unexpected value for '--{name}' found")
  | some (.setting s), [] => .ok (r, some s)
  | some (.setting s), _ :: value => do return (← r.assign s (String.ofList value), none)

def missing (s : Setting) : Stop := .usage s!"a value is required for '--{s.spelling.long}'"

/-- Read the words, the first of which may be the value that `waiting` waits for. -/
def words (r : Reading) (waiting : Option Setting) : List String → Except Stop Reading
  | [] =>
    match waiting with
    | some s => .error (missing s)
    | none => .ok r
  | word :: rest =>
    let looksLikeOption := word.startsWith "-" && word ≠ "-"
    match waiting, looksLikeOption with
    | some s, true => .error (missing s)
    | some s, false => do words (← r.assign s word) none rest
    | none, false => .error (.usage s!"unexpected argument '{word}' found")
    | none, true =>
      match word.toList with
      | ['-', '-'] =>
        match rest with
        | [] => .ok r
        | word :: _ => .error (.usage s!"unexpected argument '{word}' found")
      | '-' :: '-' :: body => do
        let (r, waiting) ← r.long body
        words r waiting rest
      | body => do
        let (r, waiting) ← r.letters body.tail
        words r waiting rest

end Reading

def Options.parse (words : List String) : Except Stop Options :=
  (Reading.words {} none words).map (·.options)

end Viewfinder.CommandLine
