import ContentVisibility.Text.Basic

/-! # Unusable settings -/
set_option autoImplicit false

namespace ContentVisibility

inductive SettingsError where
  /-- A variable is set to a value that it cannot have. -/
  | invalidValue (name : Text)
  deriving DecidableEq

def SettingsError.message : SettingsError → Text
  | .invalidValue name => "Invalid value for environment variable: ".toList ++ name

end ContentVisibility
