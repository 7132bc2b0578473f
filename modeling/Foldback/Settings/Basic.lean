/-
Settings: the active categories and the two directories. They come from an
optional settings file and from the command line. The command line replaces the
directories of the file and adds to its categories.
-/

import Foldback.Categories
import Foldback.Disk.Basic
import Foldback.Settings.Toml

namespace Foldback

/-- What a settings file or a command line chooses. -/
structure Settings where
  /-- Category entries; each may itself be a list of names. -/
  categories : List String
  /-- The directory of the sources. -/
  root : Option String
  /-- The directory of the rendered files. -/
  target : Option String
  deriving DecidableEq, Repr

/-- Why a settings file cannot be used. -/
inductive SettingsError where
  /-- There is no such file. -/
  | missing (path : String)
  /-- The file cannot be read. -/
  | unreadable (path : String) (error : FileError)
  /-- The file does not hold settings. -/
  | malformed (path : String)
  deriving DecidableEq, Repr

/-- The messages for a settings error, the general one first. -/
def SettingsError.chain : SettingsError → List String
  | .missing path => ["loading settings from " ++ path, "Config file not found: " ++ path]
  | .unreadable path error =>
    ["loading settings from " ++ path, "Failed to read config file: " ++ path, error.message]
  | .malformed path =>
    ["loading settings from " ++ path, "Failed to parse TOML config: " ++ path,
      "the document does not hold settings"]

/-- The two leading messages for a settings error. -/
def SettingsError.message (error : SettingsError) : String :=
  ": ".intercalate (error.chain.take 2)

namespace Settings

/-- Nothing is chosen. -/
def none : Settings := ⟨[], .none, .none⟩

/-- The settings with one entry of a document. Unknown keys and values of the
wrong kind are refused. -/
def withEntry (settings : Settings) : String × Toml.Value → Option Settings
  | ("categories", .list items) => some { settings with categories := items }
  | ("root", .text path) => some { settings with root := some path }
  | ("target", .text path) => some { settings with target := some path }
  | _ => .none

/-- The settings that a document holds. No key may be given twice. -/
def ofText (text : String) : Option Settings := do
  let entries ← Toml.document text
  if (entries.map (·.1)).Nodup then entries.foldlM withEntry none else .none

/-- The settings of a file. -/
def load (disk : Disk) (path : String) : Except SettingsError Settings :=
  if !disk.has path then .error (.missing path)
  else
    match disk.read path with
    | .error error => .error (.unreadable path error)
    | .ok text =>
      match ofText text with
      | .none => .error (.malformed path)
      | some settings => .ok settings

/-- The settings of a file under those of a command line. -/
def override (settings overriding : Settings) : Settings where
  categories := settings.categories ++ overriding.categories
  root := overriding.root <|> settings.root
  target := overriding.target <|> settings.target

/-- The settings in force: those of the file, if there is one, under those of the
command line. -/
def resolve (disk : Disk) (file : Option String) (overriding : Settings) :
    Except SettingsError Settings :=
  match file with
  | .none => .ok (none.override overriding)
  | some path => (·.override overriding) <$> load disk path

/-- The active categories. -/
def categorySet (settings : Settings) : Categories :=
  settings.categories.foldl (fun set entry => set.extend (Categories.parse entry).names) .empty

/-- The directory of the sources; the working directory if none is chosen. -/
def rootDirectory (settings : Settings) : String :=
  settings.root.getD "."

end Settings

end Foldback
