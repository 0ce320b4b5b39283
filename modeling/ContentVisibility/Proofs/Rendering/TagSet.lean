import ContentVisibility.Proofs.Rendering.Tiling
import ContentVisibility.Proofs.Shortcode.TagSet

/-! # Renderers for the same tags

Rendering looks at the tags only to tile the texts it comes to, so renderers whose
tags tile every text alike do the same.  The lists that two settings read from their
texts do so as soon as they have the same members
(`Renderer.render_eq_of_same_tags`). -/
set_option autoImplicit false

namespace ContentVisibility.Renderer

def withTags (r : Renderer) (tags : List Text) : Renderer := { r with tags }

theorem renderWithin_withTags {r : Renderer} {tags : List Text}
    (tiling : ∀ s, Tiling.ofDocument tags s = Tiling.ofDocument r.tags s) (v : Viewer) :
    ∀ (levels : Nat) (s : Text),
      (r.withTags tags).renderWithin v levels s = r.renderWithin v levels s := by
  intro levels
  induction levels with
  | zero => intro s; rfl
  | succ levels ih =>
      intro s
      have hblock : ∀ b, (r.withTags tags).renderBlock v levels b = r.renderBlock v levels b := by
        intro b
        have hresolve : (r.withTags tags).resolveBlock v b = r.resolveBlock v b := rfl
        simp only [renderBlock, hresolve, ih]
        rfl
      have htiling : Tiling.ofDocument (r.withTags tags).tags s = Tiling.ofDocument r.tags s :=
        tiling s
      rw [renderWithin_succ, renderWithin_succ, htiling]
      simp only [hblock]

theorem eq_of_ofTags {s : Selector} {tags : List Text} {maxDepth : Nat}
    {compile : PatternCompiler} {r : Renderer} (h : ofTags s tags maxDepth compile = .ok r)
    (hne : tags ≠ []) : r = ⟨s, tags, maxDepth⟩ := by
  have hfalse : tags.isEmpty = false := List.isEmpty_eq_false_iff.mpr hne
  rw [ofTags, hfalse] at h
  cases hcompile : compile tags with
  | error e =>
      rw [hcompile] at h
      cases h
  | ok _ =>
      rw [hcompile] at h
      exact (Except.ok.inj h).symm

/-- Whatever lists compile, the renderers for two texts that list the same tags, in any
order and with any repetitions, do the same: the output, the calls of the host and the
log are equal.  At no place of a document do two of the tags fit. -/
theorem render_eq_of_same_tags {text₁ text₂ : Text} {tags₁ tags₂ : List Text} {s : Selector}
    {maxDepth : Nat} {compile : PatternCompiler} {r₁ r₂ : Renderer}
    (read₁ : Settings.readTags? text₁ = some tags₁) (read₂ : Settings.readTags? text₂ = some tags₂)
    (same : ∀ t, t ∈ tags₁ ↔ t ∈ tags₂)
    (built₁ : ofTags s tags₁ maxDepth compile = .ok r₁)
    (built₂ : ofTags s tags₂ maxDepth compile = .ok r₂) :
    (∀ document v, r₁.render document v = r₂.render document v) ∧
      ∀ document before rest, document = before ++ rest →
        ∀ t ∈ r₁.tags, ∀ u ∈ r₁.tags, Opening.Fits t rest → Opening.Fits u rest → t = u := by
  obtain ⟨-, hne₁, hchars⟩ := Settings.readTags?_eq_some_iff.mp read₁
  obtain ⟨-, hne₂, -⟩ := Settings.readTags?_eq_some_iff.mp read₂
  obtain rfl := eq_of_ofTags built₁ hne₁
  obtain rfl := eq_of_ofTags built₂ hne₂
  constructor
  · intro document v
    exact renderWithin_withTags (r := ⟨s, tags₂, maxDepth⟩)
      (Tiling.ofDocument_congr hchars same) v (maxDepth + 1) document
  · intro document before rest _ t ht u hu hfitsT hfitsU
    exact hfitsT.unique (hchars t ht) (hchars u hu) hfitsU

/-- One tag starts with another, and the two texts list them in different order. -/
theorem render_eq_of_same_tags_reordered :
    let tags₁ := ["hide".toList, "hide-this".toList]
    let tags₂ := ["hide-this".toList, "hide".toList, "hide-this".toList]
    Settings.readTags? "hide,hide-this".toList = some tags₁ ∧
      Settings.readTags? " hide-this , hide,,hide-this".toList = some tags₂ ∧
      (∀ t, t ∈ tags₁ ↔ t ∈ tags₂) ∧
      ofTags {} tags₁ 4 = .ok ⟨{}, tags₁, 4⟩ ∧ ofTags {} tags₂ 4 = .ok ⟨{}, tags₂, 4⟩ ∧
      (⟨{}, tags₁, 4⟩ : Renderer).render "[hide-this]a[/hide-this]".toList {} =
        (⟨{}, tags₂, 4⟩ : Renderer).render "[hide-this]a[/hide-this]".toList {} := by
  intro tags₁ tags₂
  have read₁ : Settings.readTags? "hide,hide-this".toList = some tags₁ := by decide
  have read₂ : Settings.readTags? " hide-this , hide,,hide-this".toList = some tags₂ := by decide
  have hsubset : ∀ t ∈ tags₁, t ∈ tags₂ := by decide
  have hsuperset : ∀ t ∈ tags₂, t ∈ tags₁ := by decide
  have same : ∀ t, t ∈ tags₁ ↔ t ∈ tags₂ := fun t => ⟨hsubset t, hsuperset t⟩
  have built₁ : ofTags {} tags₁ 4 = .ok ⟨{}, tags₁, 4⟩ := rfl
  have built₂ : ofTags {} tags₂ 4 = .ok ⟨{}, tags₂, 4⟩ := rfl
  exact ⟨read₁, read₂, same, built₁, built₂,
    (render_eq_of_same_tags read₁ read₂ same built₁ built₂).1 _ _⟩

end ContentVisibility.Renderer
