import Viewfinder.Files.Path
import Viewfinder.Files.Program
import Viewfinder.Settings.Reading
import Viewfinder.Text.Toml.Reader

/-!
# Loading settings

Settings come from their defaults, then a file, then the environment. The file is the one of the
name that was given or, if there is none, that name with an extension added. Neither a missing file
nor one whose extension is unknown is an error.
-/

namespace Viewfinder.Settings

/-- The languages that a file may be written in, by their extension. -/
inductive FileKind where
  | toml
  | json
deriving DecidableEq, Repr

namespace FileKind

def extension : FileKind → String
  | toml => "toml"
  | json => "json"

def ofPath? (path : String) : Option FileKind :=
  (Path.extension? path).bind fun e => [toml, json].find? (·.extension = e)

def parse? (kind : FileKind) (text : String) : Option Document :=
  let body := match text.toList with
    | '\ufeff' :: rest => String.ofList rest
    | _ => text
  match kind with
  | toml => Toml.parse? body
  | json => Document.ofJsonText? body

end FileKind

/-- A settings file that was found. -/
structure SettingsFile where
  path : String
  kind : FileKind
  text : String

def firstFile : List FileKind → String → Program (Option SettingsFile)
  | [], _ => return none
  | kind :: kinds, path => do
    let extended := Path.clean path ++ "." ++ kind.extension
    match ← Program.contents? extended with
    | some text => return some ⟨extended, kind, text⟩
    | none => firstFile kinds path

/-- Look for the settings file. -/
def locate (path : String) : Program (Option SettingsFile) := do
  match ← Program.contents? path with
  | some text => return (FileKind.ofPath? path).map fun kind => ⟨path, kind, text⟩
  | none => firstFile [.toml, .json] path

/-- The settings that the three layers amount to. -/
def ofLayers (file : Option SettingsFile) (environment : List (String × String)) :
    Except SettingsError Settings :=
  match file with
  | none => ofEntries (addVariables environment defaultEntries)
  | some file =>
    match file.kind.parse? file.text with
    | some (.table fields) =>
      let entries := addDocument (Path.clean file.path) fields defaultEntries
      ofEntries (addVariables environment entries)
    | _ => .error .malformedFile

def load (path : String) (environment : List (String × String)) :
    Program (Except SettingsError Settings) := do
  return ofLayers (← locate path) environment

end Viewfinder.Settings
