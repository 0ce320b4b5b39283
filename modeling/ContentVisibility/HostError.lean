import ContentVisibility.Json.Error
import ContentVisibility.Renderer
import ContentVisibility.Settings.Error

/-! # Errors on the side of the host

Judging a viewer never fails.  What can fail is what the host supplies: its
settings, the viewer's snapshot, the tags to look for, and files. -/
set_option autoImplicit false

namespace ContentVisibility

inductive FileError where
  | notFound
  | isDirectory
  | notUtf8
  | other (description : Text)
  deriving DecidableEq

def FileError.message : FileError → Text
  | .notFound => "No such file or directory (os error 2)".toList
  | .isDirectory => "Is a directory (os error 21)".toList
  | .notUtf8 => "stream did not contain valid UTF-8".toList
  | .other description => description

inductive HostError where
  | settings (e : SettingsError)
  | viewer (e : Json.Error)
  | pattern (e : PatternError)
  | file (e : FileError)
  | internal (description : Text)
  deriving DecidableEq

namespace HostError

def code : HostError → Text
  | .settings _ => "CONFIGURATION_ERROR".toList
  | .viewer _ => "INVALID_VIEWER".toList
  | .pattern _ => "INVALID_PATTERN".toList
  | .file _ => "IO_ERROR".toList
  | .internal _ => "INTERNAL_ERROR".toList

/-- What went wrong inside is not shown. -/
def message : HostError → Text
  | .settings e => "Configuration error: ".toList ++ e.message
  | .viewer e => "Invalid viewer context: ".toList ++ e.message
  | .pattern e => "Invalid shortcode pattern: ".toList ++ e.message
  | .file e => "I/O error: ".toList ++ e.message
  | .internal _ => "Internal error".toList

end HostError

end ContentVisibility
