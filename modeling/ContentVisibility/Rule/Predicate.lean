import ContentVisibility.Rule.Segment
import ContentVisibility.Text.Keyword

/-! # Predicates

One rule in structured form: a role segment and a capability segment, either of
which may be empty.  When the role segment is exactly one of the three user
keys, the rule compares that identity field with the other segment; the keys
are read before any negation, so `!userid` is a role. -/
set_option autoImplicit false

namespace ContentVisibility

/-! ## User keys -/

/-- The identity field that a rule compares. -/
inductive UserKey where
  | id
  | name
  | email
  deriving DecidableEq

structure UnknownUserKey where
  key : Text
  deriving DecidableEq

def UnknownUserKey.message (e : UnknownUserKey) : Text := "Unknown user key: ".toList ++ e.key

instance : Keyword UserKey where
  text
    | .id => "userid".toList
    | .name => "username".toList
    | .email => "useremail".toList
  all := [.id, .name, .email]
  mem_all a := by cases a <;> simp
  text_injective a b := by cases a <;> cases b <;> decide

def UserKey.read (s : Text) : Except UnknownUserKey UserKey :=
  match Keyword.read? s with
  | some key => .ok key
  | none => .error ⟨s⟩

theorem UserKey.nil_ne_text (key : UserKey) : [] ≠ Keyword.text key := by
  cases key <;> decide

/-- No user key begins with a marker: negated, a user key is the name of a role. -/
theorem UserKey.negated_ne_text (key : UserKey) (s : Text) :
    Segment.negationMarker :: s ≠ Keyword.text key := by
  intro h
  have hhead : some Segment.negationMarker = (Keyword.text key).head? := congrArg List.head? h
  cases key <;> exact absurd hhead (by decide)

/-! ## Predicates -/

structure Predicate where
  role : Text
  capability : Text
  deriving DecidableEq

/-- How a predicate is judged. -/
inductive Predicate.Kind where
  | user (key : UserKey)
  | roleCapability
  deriving DecidableEq

namespace Predicate

def separator : Char := ':'

/-- A token is cut at its first colon; without one it is all role. -/
def parse (token : Text) : Predicate :=
  ⟨token.takeWhile (· != separator), (token.dropWhile (· != separator)).drop 1⟩

def kind (p : Predicate) : Kind :=
  match Keyword.read? p.role with
  | some key => .user key
  | none => .roleCapability

/-- Neither segment is given; such a predicate holds for nobody. -/
def isEmpty (p : Predicate) : Bool := p.role.isEmpty && p.capability.isEmpty

def display (p : Predicate) : Text :=
  if p.capability.isEmpty then p.role else p.role ++ separator :: p.capability

/-- A predicate whose role segment is no user key is judged by its segments. -/
theorem kind_of_ne_text {role : Text} (h : ∀ key : UserKey, role ≠ Keyword.text key)
    (capability : Text) : kind ⟨role, capability⟩ = .roleCapability := by
  rw [kind, Keyword.read?_eq_none_iff.mpr h]

theorem parse_of_not_mem {token : Text} (h : separator ∉ token) : parse token = ⟨token, []⟩ := by
  have hall : ∀ c ∈ token, (c != separator) = true :=
    fun c hc => bne_iff_ne.mpr fun e => h (e ▸ hc)
  have htake : (token ++ []).takeWhile (· != separator) = token ++ [] :=
    List.takeWhile_append_of_pos hall
  have hdrop : (token ++ []).dropWhile (· != separator) = [] :=
    List.dropWhile_append_of_pos hall
  rw [List.append_nil] at htake hdrop
  simp [parse, htake, hdrop]

theorem parse_append {role : Text} (h : separator ∉ role) (capability : Text) :
    parse (role ++ separator :: capability) = ⟨role, capability⟩ := by
  have hall : ∀ c ∈ role, (c != separator) = true :=
    fun c hc => bne_iff_ne.mpr fun e => h (e ▸ hc)
  simp [parse, List.takeWhile_append_of_pos hall, List.dropWhile_append_of_pos hall]

theorem not_mem_parse_role (token : Text) : separator ∉ (parse token).role := by
  intro h
  have hall := List.all_eq_true.mp (List.all_takeWhile (l := token) (p := (· != separator)))
  simpa using hall separator h

/-- The display of a predicate whose role holds no colon is a token for it. -/
theorem parse_display {p : Predicate} (h : separator ∉ p.role) : parse p.display = p := by
  obtain ⟨role, capability⟩ := p
  cases capability with
  | nil => simpa [display] using parse_of_not_mem h
  | cons c rest => simpa [display] using parse_append h (c :: rest)

end Predicate

end ContentVisibility
