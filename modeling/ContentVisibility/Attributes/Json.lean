import ContentVisibility.Attributes.Basic
import ContentVisibility.Json.Printer
import ContentVisibility.Json.Record

/-! # Attributes in JSON

Attributes are a record of three texts, each of which may be left out. -/
set_option autoImplicit false

namespace ContentVisibility.Attributes

def field (n : AttributeName) : Json.Field Attributes where
  name := Keyword.text n
  read a s := (Json.readText s).map fun (value, rest) => (a.set value n, rest)

def record : Json.Record Attributes where
  title := "struct Attributes".toList
  initial := {}
  fields := [field .audience, field .exclude, field .test]

def toJson (a : Attributes) : Text :=
  Json.objectText (Keyword.all.map fun n => (Keyword.text n, Json.quoted (a.get n)))

end ContentVisibility.Attributes
