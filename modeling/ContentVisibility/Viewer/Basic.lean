import ContentVisibility.Rule.Predicate
import ContentVisibility.Trace.Basic
import ContentVisibility.Viewer.NameSet

/-! # Viewers

A snapshot of the person a page is prepared for.  Capabilities are looked up in
the viewer's set unless the host supplied a check of its own; the set then has
no say, and every question put to the check is recorded. -/
set_option autoImplicit false

namespace ContentVisibility

structure Viewer where
  isLoggedIn : Bool := false
  roles : NameSet := .empty
  userId : Text := []
  username : Text := []
  userEmail : Text := []
  capabilities : NameSet := .empty
  capabilityCheck : Option (Text → Bool) := none

namespace Viewer

def anonymous : Viewer := {}

def loggedIn (userId username userEmail : Text) : Viewer :=
  { isLoggedIn := true, userId, username, userEmail }

def withRole (v : Viewer) (role : Text) : Viewer := { v with roles := v.roles.insert role }

def withCapability (v : Viewer) (capability : Text) : Viewer :=
  { v with capabilities := v.capabilities.insert capability }

def withCapabilityCheck (v : Viewer) (check : Text → Bool) : Viewer :=
  { v with capabilityCheck := some check }

def identity (v : Viewer) : UserKey → Text
  | .id => v.userId
  | .name => v.username
  | .email => v.userEmail

def hasRole (v : Viewer) (role : Text) : Bool := v.roles.contains role

def hasCapability (v : Viewer) (capability : Text) : Bool :=
  match v.capabilityCheck with
  | some check => check capability
  | none => v.capabilities.contains capability

/-- `hasCapability` with the question recorded when the host answers it. -/
def askCapability (v : Viewer) (capability : Text) : Traced Bool :=
  match v.capabilityCheck with
  | some check => do
      Traced.call (.capability capability)
      pure (check capability)
  | none => pure (v.capabilities.contains capability)

@[simp] theorem value_askCapability (v : Viewer) (capability : Text) :
    (v.askCapability capability).value = v.hasCapability capability := by
  simp only [askCapability, hasCapability]
  cases v.capabilityCheck <;> rfl

theorem events_askCapability (v : Viewer) (capability : Text) :
    (v.askCapability capability).events =
      if v.capabilityCheck.isSome then [.called (.capability capability)] else [] := by
  simp only [askCapability]
  cases v.capabilityCheck <;> rfl

end Viewer

end ContentVisibility
