import ContentVisibility.Text.Keyword

/-! # Settings

What can be set about rendering and about the log.  Every setting has a
default. -/
set_option autoImplicit false

namespace ContentVisibility

structure RenderSettings where
  hiddenContent : Text := []
  tags : List Text := ["hide".toList, "hidethis".toList]
  maxDepth : Nat := 4
  deriving DecidableEq

inductive LogFormat where
  | text
  | json
  deriving DecidableEq

instance : Keyword LogFormat where
  text
    | .text => "text".toList
    | .json => "json".toList
  all := [.text, .json]
  mem_all a := by cases a <;> simp
  text_injective a b := by cases a <;> cases b <;> decide

structure LogSettings where
  filter : Text := "info".toList
  format : LogFormat := .text
  deriving DecidableEq

structure Settings where
  render : RenderSettings := {}
  log : LogSettings := {}
  deriving DecidableEq

end ContentVisibility
