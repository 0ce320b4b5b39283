import ContentVisibility.Proofs.Rendering.Tiling
import ContentVisibility.Proofs.Selection

/-! # How deep rendering goes

`Reaches` gives the texts that a rendering renders, each with its depth: the
document, and for each block of a text within the limit its resolved text.  A
text beyond the limit, and only such a text, is warned about
(`warning_iff_reaches`), so the log shows how deep the rendering went. -/
set_option autoImplicit false

namespace ContentVisibility

/-- The entry written for a text that is left unexpanded at the depth. -/
def nestingWarning (depth : Nat) : Event := .logged (.nestingTooDeep depth)

section Selection
variable {depth : Nat}

theorem Attributes.parse_avoids_warning (raw : Text) :
    (Attributes.parse raw).Avoids (nestingWarning depth) := by
  refine Traced.avoids_foldlM (fun attributes a => ?_) _ _
  rw [Attributes.assign]
  split
  · exact Traced.avoids_pure _
  · exact (Traced.avoids_log (by simp [nestingWarning])).bind fun _ => Traced.avoids_pure _

theorem Hooks.applyAt_avoids_warning {α : Type} (record : α → Callback) (hook : Option (α → α))
    (value : α) : (Hooks.applyAt record hook value).Avoids (nestingWarning depth) := by
  cases hook with
  | none => exact Traced.avoids_pure _
  | some f =>
      exact (Traced.avoids_call (by simp [nestingWarning])).bind fun _ => Traced.avoids_pure _

theorem Viewer.askCapability_avoids_warning (v : Viewer) (name : Text) :
    (v.askCapability name).Avoids (nestingWarning depth) := by
  rw [Viewer.askCapability]
  split
  · exact (Traced.avoids_call (by simp [nestingWarning])).bind fun _ => Traced.avoids_pure _
  · exact Traced.avoids_pure _

theorem Segment.capabilityHolds_avoids_warning (segment : Text) (v : Viewer) :
    (Segment.capabilityHolds segment v).Avoids (nestingWarning depth) :=
  (v.askCapability_avoids_warning _).bind fun _ => Traced.avoids_pure _

theorem Predicate.holds_avoids_warning (p : Predicate) (v : Viewer) :
    (p.holds v).Avoids (nestingWarning depth) := by
  rw [Predicate.holds_eq]
  split
  · exact Traced.avoids_pure _
  · split
    · refine (Traced.avoids_pure _).bind fun b => ?_
      cases b with
      | false => exact Traced.avoids_pure _
      | true => exact Segment.capabilityHolds_avoids_warning _ _
    · exact Segment.capabilityHolds_avoids_warning _ _
    · exact Traced.avoids_pure _
    · exact Traced.avoids_pure _

theorem Rule.scan_avoids_warning (v : Viewer) (predicates : List Predicate) :
    (Rule.scan v predicates).Avoids (nestingWarning depth) := by
  induction predicates with
  | nil => exact Traced.avoids_pure _
  | cons p rest ih =>
      rw [Rule.scan]
      refine (p.holds_avoids_warning v).bind fun b => ?_
      cases b with
      | false => exact ih.bind fun _ => Traced.avoids_pure _
      | true => exact Traced.avoids_pure _

theorem RuleSet.choose_avoids_warning (set : RuleSet) (onMatch onMiss : Text) (v : Viewer) :
    (set.choose onMatch onMiss v).Avoids (nestingWarning depth) := by
  cases set with
  | absolute a =>
      exact (Traced.avoids_log (by simp [nestingWarning])).bind fun _ => Traced.avoids_pure _
  | rules predicates =>
      refine (Rule.scan_avoids_warning v predicates).bind fun found => ?_
      cases found with
      | none =>
          exact (Traced.avoids_log (by simp [nestingWarning])).bind fun _ => Traced.avoids_pure _
      | some found =>
          exact (Traced.avoids_log (by simp [nestingWarning])).bind fun _ => Traced.avoids_pure _

theorem Selector.resolve_avoids_warning (s : Selector) (a : Attributes) (body : Text) (v : Viewer) :
    (s.resolve a body v).Avoids (nestingWarning depth) := by
  refine (Hooks.applyAt_avoids_warning _ _ _).bind fun a => ?_
  refine (Hooks.applyAt_avoids_warning _ _ _).bind fun hideRules => ?_
  refine (Hooks.applyAt_avoids_warning _ _ _).bind fun showRules => ?_
  refine (RuleSet.choose_avoids_warning _ _ _ v).bind fun included => ?_
  refine (RuleSet.choose_avoids_warning _ _ _ v).bind fun visible => ?_
  exact (Traced.avoids_log (by simp [nestingWarning])).bind fun _ => Traced.avoids_pure _

end Selection

namespace Renderer

/-- Rendering `document` renders the text at the given depth. -/
inductive Reaches (r : Renderer) (v : Viewer) (document : Text) : Nat → Text → Prop where
  | document : Reaches r v document 0 document
  | block {depth : Nat} {s before : Text} {b : Block} (outer : Reaches r v document depth s)
      (within : depth ≤ r.maxDepth) (tile : (before, b) ∈ (Tiling.ofDocument r.tags s).tiles) :
      Reaches r v document (depth + 1) (r.resolveBlock v b).value

variable {r : Renderer} {v : Viewer} {document : Text}

theorem value_resolveBlock_cases (r : Renderer) (v : Viewer) (b : Block) :
    ∃ marker, '[' ∉ marker ∧ ']' ∉ marker ∧
      (r.resolveBlock v b).value =
        (if r.selector.shows (Attributes.parse b.attributes).value v then b.body
          else r.selector.hiddenContent) ++ marker :=
  r.selector.value_resolve_cases (Attributes.parse b.attributes).value b.body v

/-- A resolved text with a bracket that nothing hidden holds is the body of a block
that is shown, with a marker behind it. -/
theorem shown_of_open_mem (hidden : '[' ∉ r.selector.hiddenContent) {b : Block}
    (hopen : '[' ∈ (r.resolveBlock v b).value) :
    r.selector.shows (Attributes.parse b.attributes).value v = true ∧ '[' ∈ b.body ∧
      ∃ marker, ']' ∉ marker ∧ (r.resolveBlock v b).value = b.body ++ marker := by
  obtain ⟨marker, hmarkerOpen, hmarkerClose, hvalue⟩ := r.value_resolveBlock_cases v b
  rw [hvalue] at hopen
  have hmem := (List.mem_append.mp hopen).resolve_right hmarkerOpen
  split at hmem
  · rename_i hshows
    rw [if_pos hshows] at hvalue
    exact ⟨hshows, hmem, marker, hmarkerClose, hvalue⟩
  · exact absurd hmem hidden

theorem resolveBlock_avoids_warning (depth : Nat) (b : Block) :
    (r.resolveBlock v b).Avoids (nestingWarning depth) :=
  (Attributes.parse_avoids_warning _).bind fun a => r.selector.resolve_avoids_warning a b.body v

/-- Of a block only the rendering of its resolved text can warn. -/
theorem mem_renderBlock_of_warning {depth levels : Nat} {b : Block}
    (h : nestingWarning depth ∈ (r.renderBlock v levels b).events) :
    nestingWarning depth ∈ (r.renderWithin v levels (r.resolveBlock v b).value).events := by
  rw [renderBlock, Traced.events_bind, Traced.events_bind] at h
  rcases List.mem_append.mp h with h | h
  · exact absurd h (resolveBlock_avoids_warning depth b)
  · rcases List.mem_append.mp h with h | h
    · exact h
    · exact absurd h (Hooks.applyAt_avoids_warning _ _ _)

theorem reaches_of_warning {depth : Nat} :
    ∀ (levels n : Nat) (s : Text), r.Reaches v document n s → n + levels = r.maxDepth + 1 →
      nestingWarning depth ∈ (r.renderWithin v levels s).events →
      depth = r.maxDepth + 1 ∧ ∃ s', r.Reaches v document (r.maxDepth + 1) s' := by
  intro levels
  induction levels with
  | zero =>
      intro n s hreach hlevels hmem
      have heq : nestingWarning depth = nestingWarning (r.maxDepth + 1) :=
        List.mem_singleton.mp hmem
      obtain rfl : n = r.maxDepth + 1 := hlevels
      simp only [nestingWarning, Event.logged.injEq, LogEntry.nestingTooDeep.injEq] at heq
      exact ⟨heq, s, hreach⟩
  | succ levels ih =>
      intro n s hreach hlevels hmem
      rw [events_renderWithin_succ] at hmem
      obtain ⟨⟨before, b⟩, htile, hmem⟩ := List.mem_flatMap.mp hmem
      have hinner := hreach.block (by omega) htile
      exact ih (n + 1) _ hinner (by omega) (mem_renderBlock_of_warning hmem)

/-- What the rendering of a reached text records the whole rendering records. -/
theorem Reaches.events_subset {n : Nat} {s : Text} (h : r.Reaches v document n s) :
    ∀ levels, n + levels = r.maxDepth + 1 →
      (r.renderWithin v levels s).events ⊆ (r.render document v).events := by
  induction h with
  | document =>
      intro levels hlevels
      obtain rfl : levels = r.maxDepth + 1 := by omega
      exact List.Subset.refl _
  | @block n s before b _ _ htile ih =>
      intro levels hlevels
      refine List.Subset.trans ?_ (ih (levels + 1) (by omega))
      intro e he
      rw [events_renderWithin_succ]
      refine List.mem_flatMap.mpr ⟨(before, b), htile, ?_⟩
      show e ∈ (r.renderBlock v levels b).events
      rw [renderBlock, Traced.events_bind, Traced.events_bind]
      exact List.mem_append_right _ (List.mem_append_left _ he)

theorem warning_iff_reaches {depth : Nat} :
    nestingWarning depth ∈ (r.render document v).events ↔
      depth = r.maxDepth + 1 ∧ ∃ s, r.Reaches v document (r.maxDepth + 1) s := by
  constructor
  · intro h
    exact reaches_of_warning (r.maxDepth + 1) 0 document .document (by omega) h
  · intro h
    obtain ⟨rfl, s, hreach⟩ := h
    exact hreach.events_subset 0 (by omega) (List.mem_singleton.mpr rfl)

end Renderer

end ContentVisibility
