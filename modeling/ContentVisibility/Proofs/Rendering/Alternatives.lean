import ContentVisibility.Proofs.Attributes
import ContentVisibility.Proofs.Rendering.Concatenation
import ContentVisibility.Proofs.Rendering.SingleBlock

/-! # One rule text, two branches

The same rule text as the audience of one block and as the exclusion of the next
shows every viewer one of the two: the inclusion and the exclusion read the text
alike, and the attribute that is left out lets everyone in or excludes nobody
(`Renderer.render_alternatives`). -/
set_option autoImplicit false

namespace ContentVisibility

namespace Selector

variable {s : Selector} (hooks : s.hooks = .none) (rules : Text) (v : Viewer)
include hooks

theorem shows_audience :
    s.shows (({} : Attributes).set rules .audience) v = ((RuleSet.parse rules).admits v).value := by
  have hexclude : ((RuleSet.parse []).admits v).value = false := rfl
  simp only [shows_of_hooks_none hooks, Attributes.set, hexclude, Bool.not_false, Bool.and_true]

theorem shows_exclude :
    s.shows (({} : Attributes).set rules .exclude) v =
      !((RuleSet.parse rules).admits v).value := by
  have haudience : ((RuleSet.parse "all".toList).admits v).value = true := rfl
  simp only [shows_of_hooks_none hooks, Attributes.set, haudience, Bool.true_and]

end Selector

namespace Renderer

section Single
variable {r : Renderer} {v : Viewer} (hooks : r.selector.hooks = .none)
  (tags : ∀ t ∈ r.tags, ∀ c ∈ t, Settings.isTagChar c = true)
  (hidden : '[' ∉ r.selector.hiddenContent)
  {tag value body : Text} (mem : tag ∈ r.tags) {name : AttributeName} (hname : name ≠ .test)
  (unquoted : '"' ∉ value) (unbracketed : ']' ∉ value) (hbody : '[' ∉ body)

include hooks hname unquoted in
theorem value_resolveBlock_written :
    (r.resolveBlock v ⟨tag, Attributes.written name value, some body⟩).value =
      if r.selector.shows (({} : Attributes).set value name) v then body
      else r.selector.hiddenContent := by
  have htest : (r.selector.attributesOf (({} : Attributes).set value name)).test = [] := by
    rw [Selector.attributesOf, hooks]
    cases name with
    | audience => rfl
    | exclude => rfl
    | test => exact absurd rfl hname
  rw [resolveBlock, Attributes.parse_written name unquoted]
  exact Selector.value_resolve_of_test_eq_nil htest body v

include tags mem unbracketed hbody in
theorem ofDocument_written :
    Tiling.ofDocument r.tags (Block.source ⟨tag, Attributes.written name value, some body⟩) =
      ⟨[([], ⟨tag, Attributes.written name value, some body⟩)], []⟩ := by
  have part : Opening.IsAttributePart (Attributes.written name value) := by
    refine Or.inr ⟨' ', _, rfl, by decide, ?_⟩
    have hkey : ']' ∉ Keyword.text name := by cases name <;> decide
    simp [hkey, unbracketed]
  have unclosed : ¬ Opening.closeOf tag <:+: body :=
    fun hin => hbody (hin.subset List.mem_cons_self)
  exact Tiling.ofDocument_source_of_closed tags mem part unclosed

include hooks tags hidden mem hname unquoted unbracketed hbody in
theorem value_renderWithin_written (levels : Nat) :
    (r.renderWithin v (levels + 1)
      (Block.source ⟨tag, Attributes.written name value, some body⟩)).value =
      if r.selector.shows (({} : Attributes).set value name) v then body
      else r.selector.hiddenContent := by
  have hresolve : (r.resolveBlock v ⟨tag, Attributes.written name value, some body⟩).value = _ :=
    value_resolveBlock_written hooks hname unquoted
  have hplain : Block.Plain r.tags
      (r.resolveBlock v ⟨tag, Attributes.written name value, some body⟩).value [] := by
    rw [hresolve]
    split
    · exact Block.plain_of_open_not_mem hbody []
    · exact Block.plain_of_open_not_mem hidden []
  rw [(renderWithin_alike_of_single (ofDocument_written tags mem unbracketed hbody)).1,
    (renderBlock_alike_of_plain hplain levels).1, Traced.value_bind, hresolve, hooks]
  rfl

end Single

/-- A block for those whom the rules admit and a block that excludes them: the viewer
sees the first body if the rules admit him, else the second, and the hidden content in
the place of the other.  One of the two blocks is shown, and not the other. -/
theorem render_alternatives (r : Renderer) (v : Viewer) {tag rules a b : Text}
    (hooks : r.selector.hooks = .none)
    (tags : ∀ t ∈ r.tags, ∀ c ∈ t, Settings.isTagChar c = true) (mem : tag ∈ r.tags)
    (hidden : '[' ∉ r.selector.hiddenContent) (ha : '[' ∉ a) (hb : '[' ∉ b)
    (unquoted : '"' ∉ rules) (unbracketed : ']' ∉ rules) :
    (r.render (Block.source ⟨tag, Attributes.written .audience rules, some a⟩ ++
        Block.source ⟨tag, Attributes.written .exclude rules, some b⟩) v).value =
      (if ((RuleSet.parse rules).admits v).value then a ++ r.selector.hiddenContent
        else r.selector.hiddenContent ++ b) ∧
    r.selector.shows (Attributes.parse (Attributes.written .audience rules)).value v =
      !r.selector.shows (Attributes.parse (Attributes.written .exclude rules)).value v := by
  have hcomplete : (Tiling.ofDocument r.tags
      (Block.source ⟨tag, Attributes.written .audience rules, some a⟩)).Complete := by
    rw [ofDocument_written tags mem unbracketed ha]
    exact ⟨by simp, List.not_mem_nil⟩
  constructor
  · rw [render, renderWithin_append (Settings.unbracketed_of_isTagChar tags) hcomplete]
    simp only [Traced.value_bind, Traced.value_pure]
    rw [value_renderWithin_written hooks tags hidden mem (by decide) unquoted unbracketed ha,
      value_renderWithin_written hooks tags hidden mem (by decide) unquoted unbracketed hb,
      Selector.shows_audience hooks, Selector.shows_exclude hooks]
    cases ((RuleSet.parse rules).admits v).value <;> rfl
  · rw [Attributes.parse_written _ unquoted, Attributes.parse_written _ unquoted]
    simp only [Traced.value_pure]
    rw [Selector.shows_audience hooks, Selector.shows_exclude hooks, Bool.not_not]

/-- The rules are a list with a blank entry, a quote and an opened bracket. -/
theorem render_alternatives_member :
    let r : Renderer := ⟨{ hiddenContent := "-".toList }, ["hide".toList, "members".toList], 0⟩
    let rules := "[it's', ,:!read".toList
    let v : Viewer := Viewer.anonymous.withCapability "write".toList
    let first : Block := ⟨"members".toList, Attributes.written .audience rules, some "a]".toList⟩
    let second : Block := ⟨"members".toList, Attributes.written .exclude rules, some "b".toList⟩
    (r.render (first.source ++ second.source) v).value = "a]-".toList := by
  intro r rules v first second
  have tags : Settings.readTags? "hide,members".toList = some r.tags := by decide
  have hadmits : ((RuleSet.parse rules).admits v).value = true := by decide
  have h := (r.render_alternatives v rfl (Settings.readTags?_eq_some_iff.mp tags).2.2
    (by decide : "members".toList ∈ r.tags) (by decide) (by decide : '[' ∉ "a]".toList)
    (by decide : '[' ∉ "b".toList) (by decide : '"' ∉ rules) (by decide)).1
  rw [hadmits] at h
  exact h

end Renderer

end ContentVisibility
