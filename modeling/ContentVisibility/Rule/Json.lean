import ContentVisibility.Json.Printer
import ContentVisibility.Json.Record
import ContentVisibility.Rule.Predicate

/-! # Predicates in JSON

A predicate is a record of its two segments, neither of which may be left out. -/
set_option autoImplicit false

namespace ContentVisibility.Predicate

def record : Json.Record Predicate where
  title := "struct Predicate".toList
  initial := ⟨[], []⟩
  fields := [
    .of "role" Json.readText fun p t => { p with role := t },
    .of "capability" Json.readText fun p t => { p with capability := t }]
  requiresAll := true

def toJson (p : Predicate) : Text :=
  Json.objectText [("role".toList, Json.quoted p.role),
    ("capability".toList, Json.quoted p.capability)]

end ContentVisibility.Predicate
