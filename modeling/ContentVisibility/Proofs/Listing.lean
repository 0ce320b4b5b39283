import ContentVisibility.Proofs.Text.Parts
import ContentVisibility.Rule.Listing
import Mathlib.Data.List.Forall2

/-! # Rule lists written down

The display of a predicate is a token for it, and tokens with blanks around them are
read back from between the commas (`Rule.tokens_joined`).  A list of predicates is
therefore what its displays list; only the list of a single empty predicate is not,
for its display is the empty text, which lists nothing.  A token in turn is the display
of what it is read as, unless its one colon has nothing behind it
(`Predicate.display_inverts_parse`). -/
set_option autoImplicit false

namespace ContentVisibility

namespace Text

/-- The second text is the first with blanks around it. -/
def Padded (s padded : Text) : Prop :=
  ∃ w w', (∀ c ∈ w, isBlank c = true) ∧ (∀ c ∈ w', isBlank c = true) ∧ padded = w ++ (s ++ w')

namespace Padded

variable {s padded : Text}

theorem trim_eq (h : Padded s padded) (hs : Trimmed s) : trim padded = s := by
  obtain ⟨w, w', hw, hw', rfl⟩ := h
  exact trim_padded hs hw hw'

theorem not_mem (h : Padded s padded) {c : Char} (hc : isBlank c = false) (hs : c ∉ s) :
    c ∉ padded := by
  obtain ⟨w, w', hw, hw', rfl⟩ := h
  have hblank : ¬ isBlank c = true := Bool.eq_false_iff.mp hc
  exact List.not_mem_append (fun hmem => hblank (hw c hmem))
    (List.not_mem_append hs fun hmem => hblank (hw' c hmem))

theorem eq_nil (h : Padded s []) : s = [] := by
  obtain ⟨w, w', -, -, hnil⟩ := h
  exact (List.append_eq_nil_iff.mp (List.append_eq_nil_iff.mp hnil.symm).2).1

end Padded

end Text

theorem Rule.tokens_joined {parts : List Text} (hne : parts ≠ [[]])
    (h : ∀ t ∈ parts, listSeparator ∉ t) :
    tokens (Text.joined listSeparator parts) = parts.map Text.trim := by
  by_cases hnil : parts = []
  · subst hnil
    rfl
  · have hpieces := Text.pieces_joined hnil h
    have hjoined : Text.joined listSeparator parts ≠ [] := by
      intro hempty
      rw [hempty] at hpieces
      exact hne hpieces.symm
    rw [tokens_of_ne_nil hjoined, hpieces]

namespace Predicate

theorem mem_display {p : Predicate} {c : Char} (h : c ∈ p.display) :
    c ∈ p.role ∨ c = separator ∨ c ∈ p.capability := by
  rw [display] at h
  split at h
  · exact Or.inl h
  · exact (List.mem_append.mp h).imp_right List.mem_cons.mp

theorem eq_empty_of_display_eq_nil {p : Predicate} (h : p.display = []) : p = ⟨[], []⟩ := by
  obtain ⟨role, capability⟩ := p
  cases capability with
  | nil =>
      have hrole : role = [] := h
      rw [hrole]
  | cons c rest =>
      have hcons : role ++ separator :: c :: rest = [] := h
      simp at hcons

/-- The first colon of the token is its last character. -/
def EndsAtSeparator (token : Text) : Prop :=
  ∃ role, separator ∉ role ∧ token = role ++ [separator]

theorem display_parse_eq_iff {token : Text} :
    (parse token).display = token ↔ ¬ EndsAtSeparator token := by
  constructor
  · rintro hdisplay ⟨role, hrole, rfl⟩
    rw [parse_append hrole []] at hdisplay
    have hself : role = role ++ [separator] := hdisplay
    simp at hself
  · intro hends
    by_cases hmem : separator ∈ token
    · obtain ⟨role, capability, rfl, hrole⟩ := List.eq_append_cons_of_mem hmem
      have hcapability : capability ≠ [] := by
        rintro rfl
        exact hends ⟨role, hrole, rfl⟩
      rw [parse_append hrole, display]
      exact if_neg fun hempty => hcapability (List.isEmpty_iff.mp hempty)
    · rw [parse_of_not_mem hmem]
      rfl

/-- The display can stand in a list, and be told apart from its neighbours and from the
blanks around it. -/
structure Listable (p : Predicate) : Prop where
  separator_not_mem_role : separator ∉ p.role
  listSeparator_not_mem_role : Rule.listSeparator ∉ p.role
  listSeparator_not_mem_capability : Rule.listSeparator ∉ p.capability
  trimmed_display : Text.Trimmed p.display

instance (p : Predicate) : Decidable p.Listable :=
  decidable_of_iff (separator ∉ p.role ∧ Rule.listSeparator ∉ p.role ∧
      Rule.listSeparator ∉ p.capability ∧ Text.Trimmed p.display)
    ⟨fun h => ⟨h.1, h.2.1, h.2.2.1, h.2.2.2⟩, fun h => ⟨h.1, h.2, h.3, h.4⟩⟩

theorem Listable.listSeparator_not_mem {p : Predicate} (h : p.Listable) :
    Rule.listSeparator ∉ p.display := by
  intro hmem
  rcases mem_display hmem with hrole | hseparator | hcapability
  · exact h.listSeparator_not_mem_role hrole
  · exact absurd hseparator (by decide)
  · exact h.listSeparator_not_mem_capability hcapability

end Predicate

/-! ## Lists of predicates -/

namespace Rule

def Displayed (predicates : List Predicate) (parts : List Text) : Prop :=
  List.Forall₂ (fun p t => Text.Padded p.display t) predicates parts

section Displayed
variable {predicates : List Predicate} {parts : List Text}

theorem Displayed.listSeparator_not_mem (h : Displayed predicates parts)
    (listable : ∀ p ∈ predicates, p.Listable) : ∀ t ∈ parts, listSeparator ∉ t := by
  induction h with
  | nil => exact fun t ht => absurd ht List.not_mem_nil
  | @cons p part _ _ hpart _ ih =>
      intro t ht
      rcases List.mem_cons.mp ht with rfl | ht
      · exact hpart.not_mem (by decide) (listable p List.mem_cons_self).listSeparator_not_mem
      · exact ih (fun q hq => listable q (List.mem_cons_of_mem _ hq)) t ht

theorem Displayed.ofTokens_trim (h : Displayed predicates parts)
    (listable : ∀ p ∈ predicates, p.Listable) : ofTokens (parts.map Text.trim) = predicates := by
  induction h with
  | nil => rfl
  | @cons p part _ _ hpart _ ih =>
      have hp := listable p List.mem_cons_self
      have hrest := ih fun q hq => listable q (List.mem_cons_of_mem _ hq)
      have htrim : Text.trim part = p.display := hpart.trim_eq hp.trimmed_display
      have hparse : Predicate.parse p.display = p :=
        Predicate.parse_display hp.separator_not_mem_role
      rw [ofTokens] at hrest ⊢
      rw [List.map_cons, List.map_cons, hrest, htrim, hparse]

theorem Displayed.eq_empty (h : Displayed predicates [[]]) : predicates = [⟨[], []⟩] := by
  obtain ⟨p, rest, hp, hrest, rfl⟩ := List.forall₂_cons_right_iff.mp h
  obtain rfl := List.forall₂_nil_right_iff.mp hrest
  rw [Predicate.eq_empty_of_display_eq_nil hp.eq_nil]

theorem ofSpec_displayed (hne : predicates ≠ [⟨[], []⟩]) (listable : ∀ p ∈ predicates, p.Listable)
    (h : Displayed predicates parts) :
    ofSpec (Text.joined listSeparator parts) = predicates := by
  have hparts : parts ≠ [[]] := by
    rintro rfl
    exact hne h.eq_empty
  rw [ofSpec, tokens_joined hparts (h.listSeparator_not_mem listable)]
  exact h.ofTokens_trim listable

end Displayed

end Rule

/-- Predicates are read back from the list of their displays, whatever blanks stand around
these.  A token is the display of the predicate it is read as exactly when its first colon
is not its last character; where it is not, the display is another token for the same
predicate. -/
theorem Predicate.display_inverts_parse :
    (∀ (predicates : List Predicate) (parts : List Text), predicates ≠ [⟨[], []⟩] →
      (∀ p ∈ predicates, p.Listable) → Rule.Displayed predicates parts →
        Rule.ofSpec (Text.joined Rule.listSeparator parts) = predicates) ∧
    ∀ token : Text, ((parse token).display = token ↔ ¬ EndsAtSeparator token) ∧
      parse (parse token).display = parse token := by
  constructor
  · intro predicates parts hne listable h
    exact Rule.ofSpec_displayed hne listable h
  · intro token
    exact ⟨display_parse_eq_iff, parse_display (not_mem_parse_role token)⟩

/-- A value with a colon, a predicate that is empty and a capability with a blank in it, the
empty one without any padding. -/
theorem Predicate.display_inverts_parse_padded :
    let predicates : List Predicate := [⟨"useremail".toList, "a:b@c".toList⟩, ⟨[], []⟩,
      ⟨[], "!edit posts".toList⟩]
    let parts : List Text := ["\u3000useremail:a:b@c".toList, [], " :!edit posts\t".toList]
    predicates ≠ [⟨[], []⟩] ∧ (∀ p ∈ predicates, p.Listable) ∧
      Rule.Displayed predicates parts ∧
      Rule.ofSpec "\u3000useremail:a:b@c,, :!edit posts\t".toList = predicates := by
  intro predicates parts
  have hne : predicates ≠ [⟨[], []⟩] := by decide
  have listable : ∀ p ∈ predicates, p.Listable := by decide
  have blank : ∀ {w : Text}, w.all Text.isBlank = true → ∀ c ∈ w, Text.isBlank c = true :=
    fun h => List.all_eq_true.mp h
  have hparts : Rule.Displayed predicates parts :=
    .cons ⟨"\u3000".toList, [], blank (by decide), blank rfl, rfl⟩
      (.cons ⟨[], [], blank rfl, blank rfl, rfl⟩
        (.cons ⟨" ".toList, "\t".toList, blank (by decide), blank (by decide), rfl⟩ .nil))
  exact ⟨hne, listable, hparts, display_inverts_parse.1 predicates parts hne listable hparts⟩

end ContentVisibility
