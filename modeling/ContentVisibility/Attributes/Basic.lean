import ContentVisibility.Text.Keyword

/-! # Attributes of a block

Three texts govern a block: the audience it is shown to, those it is hidden
from again, and the mode of its self-test. -/
set_option autoImplicit false

namespace ContentVisibility

structure Attributes where
  audience : Text := "all".toList
  exclude : Text := []
  test : Text := []
  deriving DecidableEq

/-- The attributes a block may set, in the order in which a list gives them. -/
inductive AttributeName where
  | audience
  | exclude
  | test
  deriving DecidableEq

instance : Keyword AttributeName where
  text
    | .audience => "for".toList
    | .exclude => "exclude".toList
    | .test => "test".toList
  all := [.audience, .exclude, .test]
  mem_all a := by cases a <;> simp
  text_injective a b := by cases a <;> cases b <;> decide

namespace Attributes

def get (a : Attributes) : AttributeName → Text
  | .audience => a.audience
  | .exclude => a.exclude
  | .test => a.test

def set (a : Attributes) (value : Text) : AttributeName → Attributes
  | .audience => { a with audience := value }
  | .exclude => { a with exclude := value }
  | .test => { a with test := value }

theorem get_set (a : Attributes) (value : Text) (m n : AttributeName) :
    (a.set value m).get n = if m = n then value else a.get n := by
  cases m <;> cases n <;> rfl

theorem ext_get {a b : Attributes} (h : ∀ n, a.get n = b.get n) : a = b := by
  obtain ⟨a1, a2, a3⟩ := a
  obtain ⟨b1, b2, b3⟩ := b
  have h1 := h .audience
  have h2 := h .exclude
  have h3 := h .test
  simp only [get] at h1 h2 h3
  rw [h1, h2, h3]

end Attributes

end ContentVisibility
