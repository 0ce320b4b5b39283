import ContentVisibility.Hooks
import ContentVisibility.Text.Quoted
import ContentVisibility.Viewer.Basic

/-! # Descriptions

One-line descriptions for diagnosis.  Of a host function they say only whether
it is there. -/
set_option autoImplicit false

namespace ContentVisibility

namespace Description

def commaSeparated : List Text → Text
  | [] => []
  | [s] => s
  | s :: t :: rest => s ++ ", ".toList ++ commaSeparated (t :: rest)

def flag (b : Bool) : Text := if b then "true".toList else "false".toList

def set (items : List Text) : Text := '\x7b' :: commaSeparated items ++ ['\x7d']

def record (title : Text) (fields : List (Text × Text)) : Text :=
  title ++ " \x7b ".toList ++
    commaSeparated (fields.map fun (name, value) => name ++ ": ".toList ++ value) ++ " \x7d".toList

end Description

open Description

def NameSet.describe (s : NameSet) : Text := set (s.names.map Text.quoted)

def Viewer.describe (v : Viewer) : Text :=
  record "ViewerContext".toList [
    ("is_logged_in".toList, flag v.isLoggedIn),
    ("roles".toList, v.roles.describe),
    ("user_id".toList, Text.quoted v.userId),
    ("username".toList, Text.quoted v.username),
    ("user_email".toList, Text.quoted v.userEmail),
    ("capabilities".toList, v.capabilities.describe),
    ("capability_check".toList, flag v.capabilityCheck.isSome)]

def Hooks.describe (h : Hooks) : Text :=
  record "Hooks".toList [
    ("attributes".toList, flag h.attributes.isSome),
    ("hide_rules".toList, flag h.hideRules.isSome),
    ("show_rules".toList, flag h.showRules.isSome),
    ("content".toList, flag h.content.isSome)]

end ContentVisibility
