import ContentVisibility.Json.Quoted
import ContentVisibility.Text.Cut

/-! # Writing JSON

Lists and objects are written without blanks from members that are already
written. -/
set_option autoImplicit false

namespace ContentVisibility.Json

def boolText (b : Bool) : Text := if b then "true".toList else "false".toList

def listText (items : List Text) : Text := '[' :: (Text.joined ',' items ++ [']'])

def memberText (name value : Text) : Text := quoted name ++ ':' :: value

def objectText (members : List (Text × Text)) : Text :=
  '\x7b' :: (Text.joined ',' (members.map fun (name, value) => memberText name value) ++ ['\x7d'])

end ContentVisibility.Json
