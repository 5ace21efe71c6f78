import ApiSurvey.Files.Directory
import ApiSurvey.Settings.Basic
import ApiSurvey.Settings.Location
import ApiSurvey.Toml.Document

/-!
# Settings files

Settings are read from a configuration text and checked.  Without a file that is asked for, the
default file counts if there is one, and else the default settings.
-/

namespace ApiSurvey

namespace Settings

/-- What is wrong with settings that could be read. -/
inductive Problem
  | topNZero
  | maxDepthZero
  | notMediaType (text : String)
deriving DecidableEq, Repr

def Problem.message : Problem → String
  | topNZero => "top_n must be at least 1"
  | maxDepthZero => "max_depth must be at least 1"
  | notMediaType text => "'" ++ text ++ "' is not a media type like 'application/json'"

/-- The table and the key of the setting that a problem is about. -/
def Problem.setting : Problem → String × String
  | topNZero => ("reduce", "top_n")
  | maxDepthZero => ("schema", "max_depth")
  | notMediaType _ => ("schema", "content_type")

/-- Why there are no settings. -/
inductive Failure
  /-- The file is missing or no text. -/
  | unreadable (path : String)
  /-- The text of the file describes no settings. -/
  | malformed (file : String)
  | invalid (file : String) (problem : Problem) (span : Option Span)
deriving DecidableEq, Repr

namespace Failure

def message : Failure → String
  | unreadable path => "failed to read '" ++ path ++ "'"
  | malformed _ => "failed to parse lens.toml"
  | invalid _ problem _ => problem.message

def code : Failure → String
  | unreadable _ => "lens::config_io"
  | malformed _ => "lens::parse_error"
  | invalid _ _ _ => "lens::validation_error"

end Failure

/-- A media type has something on both sides of its first slash. -/
def isMediaType (text : String) : Bool :=
  match Text.splitOnce (· == '/') text.toList with
  | some (type, subtype) => !Text.allBlank type && !Text.allBlank subtype
  | none => false

/-- The first problem with settings. -/
def problem? (s : Settings) : Option Problem :=
  if s.reduce.topN = 0 then some .topNZero
  else if s.schema.maxDepth = 0 then some .maxDepthZero
  else match s.schema.contentType with
    | some text => if isMediaType text then none else some (.notMediaType text)
    | none => none

/-- The settings that a text describes; `file` names it in failures. -/
def parse (text file : String) : Except Failure Settings :=
  match (Toml.parse? text).bind ofTable? with
  | none => .error (.malformed file)
  | some s =>
    match s.problem? with
    | some problem =>
      let (tableName, key) := problem.setting
      .error (.invalid file problem (valueSpan? text tableName key))
    | none => .ok s

end Settings

/-- A settings file that was read. -/
structure SettingsFile where
  path : String
  content : String
  settings : Settings
deriving DecidableEq, Repr

namespace SettingsFile

/-- The file that counts where none is asked for. -/
def defaultPath : String := "lens.toml"

/-- The settings file at a path. -/
def load (read : String → FileState) (path : String) : Except Settings.Failure SettingsFile :=
  match (read path).text? with
  | none => .error (.unreadable path)
  | some content => (Settings.parse content path).map (SettingsFile.mk path content)

end SettingsFile

/-- The settings of a run: from the file asked for, else from the default file if there is one. -/
def Settings.load (read : String → FileState) (asked : Option String) :
    Except Settings.Failure Settings :=
  match asked with
  | some path => (SettingsFile.load read path).map SettingsFile.settings
  | none =>
    if (read SettingsFile.defaultPath).isFile then
      (SettingsFile.load read SettingsFile.defaultPath).map SettingsFile.settings
    else .ok default

end ApiSurvey
