import ContentVisibility.Attributes.Basic
import ContentVisibility.Text.Blank
import ContentVisibility.Text.Word
import ContentVisibility.Trace.Basic

/-! # Reading attributes

An assignment is a maximal run of name characters, an equals sign with optional
blanks around it, and a value in double quotes, in single quotes, or bare: a
maximal run of characters that are neither blank nor quotes.  The scan takes
assignments from left to right; a run that starts no assignment is passed over
whole.  Of several values for one attribute the last one counts. -/
set_option autoImplicit false

namespace ContentVisibility

structure Assignment where
  name : Text
  value : Text
  deriving DecidableEq

namespace Assignment

open Text (isBlank isNameChar)

def isQuote (c : Char) : Bool := c == '"' || c == '\''

def isBareChar (c : Char) : Bool := !(isBlank c || isQuote c)

/-- A value that runs up to the given quote, and what follows the quote. -/
def quotedValue? (quote : Char) (s : Text) : Option (Text × Text) :=
  match s.dropWhile (· != quote) with
  | [] => none
  | _ :: after => some (s.takeWhile (· != quote), after)

def bareValue? (s : Text) : Option (Text × Text) :=
  match s.takeWhile isBareChar with
  | [] => none
  | value => some (value, s.dropWhile isBareChar)

def value? : Text → Option (Text × Text)
  | [] => none
  | c :: rest => if isQuote c then quotedValue? c rest else bareValue? (c :: rest)

/-- The assignment that the text starts with, and what follows it. -/
def read? (s : Text) : Option (Assignment × Text) :=
  match s.takeWhile isNameChar with
  | [] => none
  | name =>
      match (s.dropWhile isNameChar).dropWhile isBlank with
      | '=' :: rest => (value? (rest.dropWhile isBlank)).map fun (value, after) =>
          (⟨name, value⟩, after)
      | _ => none

/-! ## Progress -/

theorem length_dropWhile_le (p : Char → Bool) (s : Text) : (s.dropWhile p).length ≤ s.length :=
  (List.dropWhile_suffix p).length_le

theorem length_of_quotedValue? {quote : Char} {s value after : Text}
    (h : quotedValue? quote s = some (value, after)) : after.length < s.length := by
  simp only [quotedValue?] at h
  split at h
  · simp at h
  · rename_i c rest hd
    obtain ⟨rfl, rfl⟩ := Prod.mk.inj (Option.some.inj h)
    have := length_dropWhile_le (· != quote) s
    rw [hd, List.length_cons] at this
    omega

theorem length_of_value? {s value after : Text} (h : value? s = some (value, after)) :
    after.length ≤ s.length := by
  cases s with
  | nil => simp [value?] at h
  | cons c rest =>
      simp only [value?] at h
      split at h
      · have := length_of_quotedValue? h
        rw [List.length_cons]
        omega
      · simp only [bareValue?] at h
        split at h
        · simp at h
        · obtain ⟨rfl, rfl⟩ := Prod.mk.inj (Option.some.inj h)
          exact length_dropWhile_le _ _

theorem length_of_read? {s after : Text} {a : Assignment} (h : read? s = some (a, after)) :
    after.length < s.length := by
  simp only [read?] at h
  split at h
  · simp at h
  · split at h
    · rename_i rest hd
      obtain ⟨⟨value, r⟩, hv, heq⟩ := Option.map_eq_some_iff.mp h
      obtain ⟨rfl, rfl⟩ := Prod.mk.inj heq
      have h1 := length_of_value? hv
      have h2 := length_dropWhile_le isBlank rest
      have h3 := length_dropWhile_le isBlank (s.dropWhile isNameChar)
      have h4 := length_dropWhile_le isNameChar s
      rw [hd, List.length_cons] at h3
      show r.length < s.length
      omega
    · simp at h

/-! ## The scan -/

/-- What remains when no assignment starts at the front. -/
def skip : Text → Text
  | [] => []
  | c :: rest => if isNameChar c then rest.dropWhile isNameChar else rest

theorem length_skip_lt (c : Char) (rest : Text) : (skip (c :: rest)).length < (c :: rest).length := by
  simp only [skip, List.length_cons]
  split
  · exact Nat.lt_succ_of_le (length_dropWhile_le _ _)
  · omega

def scan (s : Text) : List Assignment :=
  match s with
  | [] => []
  | c :: rest =>
      match _found : read? (c :: rest) with
      | some (a, after) => a :: scan after
      | none => scan (skip (c :: rest))
termination_by s.length
decreasing_by
  · exact length_of_read? _found
  · exact length_skip_lt c rest

@[simp] theorem scan_nil : scan [] = [] := by rw [scan]

theorem scan_of_read?_some {s after : Text} {a : Assignment} (h : read? s = some (a, after)) :
    scan s = a :: scan after := by
  cases s with
  | nil => simp [read?] at h
  | cons c rest =>
      rw [scan]
      split
      · rename_i b r hr
        rw [h] at hr
        obtain ⟨rfl, rfl⟩ := Prod.mk.inj (Option.some.inj hr)
        rfl
      · rename_i hr
        rw [h] at hr
        simp at hr

theorem scan_of_read?_none {c : Char} {rest : Text} (h : read? (c :: rest) = none) :
    scan (c :: rest) = scan (skip (c :: rest)) := by
  rw [scan]
  split
  · rename_i hr
    rw [h] at hr
    simp at hr
  · rfl

end Assignment

namespace Attributes

def assign (attributes : Attributes) (a : Assignment) : Traced Attributes :=
  let name := Text.lowerAscii a.name
  match Keyword.read? name with
  | some known => pure (attributes.set a.value known)
  | none => do
      Traced.log (.unknownAttribute name)
      pure attributes

def parse (raw : Text) : Traced Attributes := (Assignment.scan raw).foldlM assign {}

end Attributes

end ContentVisibility
