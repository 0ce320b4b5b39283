import ContentVisibility.Proofs.Rendering.Tiling
import ContentVisibility.Proofs.Shortcode.Concatenation
import ContentVisibility.Proofs.Shortcode.TagSet

/-! # Rendering documents one after the other

Where a document leaves no block and no bracket open, rendering it with another one
behind it is rendering the two one after the other: the texts, the calls of the host
and the log are those of the first followed by those of the second
(`Renderer.render_append`). -/
set_option autoImplicit false

namespace ContentVisibility

namespace Renderer

theorem renderWithin_append {r : Renderer} (htags : Unbracketed r.tags) {d₁ : Text}
    (complete : (Tiling.ofDocument r.tags d₁).Complete) (v : Viewer) (levels : Nat) (d₂ : Text) :
    r.renderWithin v (levels + 1) (d₁ ++ d₂) = (do
      let first ← r.renderWithin v (levels + 1) d₁
      let second ← r.renderWithin v (levels + 1) d₂
      pure (first ++ second)) := by
  have htiling := Tiling.ofDocument_append htags complete d₂
  have hblocks : ∀ t : Tiling,
      (t.tiles.flatMap fun tile => (r.renderBlock v levels tile.2).events) =
        (t.tiles.map Prod.snd).flatMap fun b => (r.renderBlock v levels b).events := by
    intro t
    rw [List.flatMap_map]
  apply Traced.ext
  · simp only [Traced.value_bind, Traced.value_pure, value_renderWithin_succ, htiling]
    exact Tiling.fill_append (fun b => (r.renderBlock v levels b).value) _ _
  · simp only [Traced.events_bind, Traced.events_pure, List.append_nil, events_renderWithin_succ,
      hblocks, htiling]
    rw [Tiling.append, List.map_append, Tiling.blocks_prepend, List.flatMap_append]

/-- Documents of which the first is complete are rendered one after the other, whatever
the second one is: it may start with closing tags, brackets or attributes. -/
theorem render_append (r : Renderer) (v : Viewer) (d₁ d₂ : Text)
    (tags : ∀ t ∈ r.tags, ∀ c ∈ t, Settings.isTagChar c = true)
    (complete : (Tiling.ofDocument r.tags d₁).Complete) :
    r.render (d₁ ++ d₂) v = (do
      let first ← r.render d₁ v
      let second ← r.render d₂ v
      pure (first ++ second)) :=
  renderWithin_append (Settings.unbracketed_of_isTagChar tags) complete v r.maxDepth d₂

/-- A block of the first document holds an opening tag that the second one would close. -/
theorem render_append_late_close :
    let r : Renderer := ⟨{}, ["hide".toList, "hidethis".toList], 4⟩
    let d₁ := "a[hide for=logged]x[hidethis]y[/hide] hide]".toList
    let d₂ := " test=content]z[/hidethis][/hide][hide".toList
    (Tiling.ofDocument r.tags d₁).Complete ∧
      r.render (d₁ ++ d₂) .anonymous = (do
        let first ← r.render d₁ .anonymous
        let second ← r.render d₂ .anonymous
        pure (first ++ second)) := by
  intro r d₁ d₂
  have tags : Settings.readTags? "hide,hidethis".toList = some r.tags := by decide
  have hfirst : Block.first? r.tags d₁ = some ("a".toList,
      ⟨"hide".toList, " for=logged".toList, some "x[hidethis]y".toList⟩, " hide]".toList) := by
    decide
  have hrest : Block.first? r.tags " hide]".toList = none := by decide
  have complete : (Tiling.ofDocument r.tags d₁).Complete := by
    rw [Tiling.ofDocument_of_some hfirst, Tiling.ofDocument_of_none hrest]
    decide
  exact ⟨complete, r.render_append .anonymous d₁ d₂ (Settings.readTags?_eq_some_iff.mp tags).2.2
    complete⟩

end Renderer

end ContentVisibility
