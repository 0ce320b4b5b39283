import ContentVisibility.Settings.Basic
import ContentVisibility.Settings.Environment
import ContentVisibility.Settings.Error
import ContentVisibility.Text.Blank
import ContentVisibility.Text.Cut

/-! # Settings from the environment

Each setting is read from a variable and takes its default where the variable is
not set.  Tags are listed between commas, blank entries not counting; there must
be one at least, and they consist of ASCII letters, digits, `_` and `-`. -/
set_option autoImplicit false

namespace ContentVisibility

/-! ## Variables -/

inductive Variable where
  | hiddenContent
  | tags
  | maxDepth
  | logFormat
  | logFilter
  deriving DecidableEq

instance : Keyword Variable where
  text
    | .hiddenContent => "HIDETHIS_HIDDEN_CONTENT".toList
    | .tags => "HIDETHIS_SHORTCODE_TAGS".toList
    | .maxDepth => "HIDETHIS_MAX_DEPTH".toList
    | .logFormat => "HIDETHIS_LOG_FORMAT".toList
    | .logFilter => "RUST_LOG".toList
  all := [.hiddenContent, .tags, .maxDepth, .logFormat, .logFilter]
  mem_all a := by cases a <;> simp
  text_injective a b := by cases a <;> cases b <;> decide

/-! ## Values -/

namespace Settings

def isTagChar (c : Char) : Bool := c.isAlphanum || c == '_' || c == '-'

def readTags? (s : Text) : Option (List Text) :=
  let tags := ((Text.pieces ',' s).map Text.trim).filter fun t => !t.isEmpty
  if !tags.isEmpty && tags.all fun t => t.all isTagChar then some tags else none

def isDigit (c : Char) : Bool := '0' ≤ c && c ≤ '9'

/-- The greatest number of 64 bits. -/
def maxNumber : Nat := 18446744073709551615

/-- Decimal digits, with one plus sign allowed before them. -/
def readNumber? (s : Text) : Option Nat :=
  let digits := match s with
    | '+' :: rest => rest
    | _ => s
  if !digits.isEmpty && digits.all isDigit then
    let n := digits.foldl (fun n c => 10 * n + (c.toNat - '0'.toNat)) 0
    if n ≤ maxNumber then some n else none
  else none

def readLogFormat? (s : Text) : Option LogFormat := Keyword.read? (Text.lowerAscii (Text.trim s))

/-- The value of a variable, or the default where it is not set. -/
def readSetting {α : Type} (env : Environment) (name : Variable) (read? : Text → Option α)
    (default : α) : Except SettingsError α :=
  match env.get? (Keyword.text name) with
  | none => .ok default
  | some s =>
      match read? s with
      | some value => .ok value
      | none => .error (.invalidValue (Keyword.text name))

/-- Of several unusable values the first in the order of the fields is reported. -/
def load (env : Environment) : Except SettingsError Settings := do
  let d : Settings := {}
  let tags ← readSetting env .tags readTags? d.render.tags
  let hiddenContent ← readSetting env .hiddenContent some d.render.hiddenContent
  let maxDepth ← readSetting env .maxDepth readNumber? d.render.maxDepth
  let filter ← readSetting env .logFilter some d.log.filter
  let format ← readSetting env .logFormat readLogFormat? d.log.format
  return { render := { hiddenContent, tags, maxDepth }, log := { filter, format } }

theorem readTags?_eq_some_iff {s : Text} {tags : List Text} :
    readTags? s = some tags ↔
      tags = ((Text.pieces ',' s).map Text.trim).filter (fun t => !t.isEmpty) ∧ tags ≠ [] ∧
        ∀ t ∈ tags, ∀ c ∈ t, isTagChar c = true := by
  simp only [readTags?]
  constructor
  · intro h
    split at h
    · rename_i hv
      obtain rfl := Option.some.inj h
      simp only [Bool.and_eq_true, Bool.not_eq_true', List.isEmpty_eq_false_iff, List.all_eq_true]
        at hv
      exact ⟨rfl, hv.1, hv.2⟩
    · simp at h
  · rintro ⟨rfl, hne, hall⟩
    rw [if_pos]
    simp only [Bool.and_eq_true, Bool.not_eq_true', List.isEmpty_eq_false_iff, List.all_eq_true]
    exact ⟨hne, hall⟩

theorem ne_nil_of_mem_readTags? {s : Text} {tags : List Text} (h : readTags? s = some tags)
    {t : Text} (ht : t ∈ tags) : t ≠ [] := by
  rw [(readTags?_eq_some_iff.mp h).1] at ht
  simpa using (List.mem_filter.mp ht).2

end Settings

end ContentVisibility
