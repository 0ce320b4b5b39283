import ContentVisibility.Json.Printer
import ContentVisibility.Json.Record
import ContentVisibility.Viewer.Basic

/-! # Viewers in JSON

A viewer is a record of six fields, each of which may be left out; a check of
the host's is never part of it. -/
set_option autoImplicit false

namespace ContentVisibility.Viewer

def record : Json.Record Viewer where
  title := "struct ViewerContext".toList
  initial := .anonymous
  fields := [
    .of "is_logged_in" Json.readBool fun v b => { v with isLoggedIn := b },
    .of "roles" (Json.readList Json.readText) fun v names => { v with roles := .ofList names },
    .of "user_id" Json.readText fun v t => { v with userId := t },
    .of "username" Json.readText fun v t => { v with username := t },
    .of "user_email" Json.readText fun v t => { v with userEmail := t },
    .of "capabilities" (Json.readList Json.readText)
      fun v names => { v with capabilities := .ofList names }]

/-- The viewer that a text gives; its reading is logged. -/
def parse (s : Text) : Traced (Except Json.Error Viewer) :=
  match record.parse s with
  | .error e => pure (.error e)
  | .ok v => do
      Traced.log (.viewerLoaded v.isLoggedIn v.roles.size)
      pure (.ok v)

def namesText (names : NameSet) : Text := Json.listText (names.names.map Json.quoted)

/-- The members of the object that gives the viewer, in the order of its fields. -/
def members (v : Viewer) : List (Text × Text) :=
  [("is_logged_in".toList, Json.boolText v.isLoggedIn),
   ("roles".toList, namesText v.roles),
   ("user_id".toList, Json.quoted v.userId),
   ("username".toList, Json.quoted v.username),
   ("user_email".toList, Json.quoted v.userEmail),
   ("capabilities".toList, namesText v.capabilities)]

def toJson (v : Viewer) : Text := Json.objectText v.members

end ContentVisibility.Viewer
