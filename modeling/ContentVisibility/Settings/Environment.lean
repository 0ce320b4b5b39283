import ContentVisibility.Text.Basic

/-! # Environments

An environment lists variables with their values; the first entry of a variable
counts, so entries that are added behind the others change no variable that is
already set. -/
set_option autoImplicit false

namespace ContentVisibility

abbrev Environment := List (Text × Text)

namespace Environment

def get? (env : Environment) (name : Text) : Option Text := env.lookup name

/-- A variable that is not set is empty. -/
def valueOf (env : Environment) (name : Text) : Text := (env.get? name).getD []

def add (env : Environment) (name value : Text) : Environment := env ++ [(name, value)]

@[simp] theorem get?_nil (name : Text) : get? [] name = none := rfl

theorem get?_add (env : Environment) (name value x : Text) :
    (env.add name value).get? x = (env.get? x).or (get? [(name, value)] x) := by
  simp [add, get?, List.lookup_append]

theorem get?_add_of_some {env : Environment} {x v : Text} (h : env.get? x = some v)
    (name value : Text) : (env.add name value).get? x = some v := by
  rw [get?_add, h]
  rfl

end Environment

end ContentVisibility
