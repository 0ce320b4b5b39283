import ContentVisibility.Proofs.Questions
import ContentVisibility.Proofs.Rendering.Tiling
import ContentVisibility.Proofs.Selection

/-! # The order of the calls

Where a transform is registered at every point, rendering a block calls the host for
the attributes and for both rule lists, asks what the two passes ask, calls it for the
blocks in the resolved text, and last for the content (`Renderer.blockTrace`).  So the
attributes call opens a block and the content call closes it, and the calls are
bracketed with the blocks (`Renderer.calls_render_bracketed`). -/
set_option autoImplicit false

namespace ContentVisibility

inductive HookPoint where
  | attributes
  | hideRules
  | showRules
  | content
  deriving DecidableEq

def Callback.point? : Callback → Option HookPoint
  | .capability _ => none
  | .attributes _ => some .attributes
  | .hideRules _ => some .hideRules
  | .showRules _ => some .showRules
  | .content _ => some .content

namespace HookPoint

def times (p : HookPoint) (calls : List Callback) : Nat := calls.countP (·.point? == some p)

theorem times_append (p : HookPoint) (x y : List Callback) :
    p.times (x ++ y) = p.times x + p.times y :=
  List.countP_append

theorem times_le (p : HookPoint) {front calls : List Callback} (h : front <+: calls) :
    p.times front ≤ p.times calls :=
  h.countP_le

end HookPoint

def Callback.opening (a : Attributes) (hideRules showRules : List Predicate) : List Callback :=
  [.attributes a, .hideRules hideRules, .showRules showRules]

theorem HookPoint.times_opening (p : HookPoint) (a : Attributes)
    (hideRules showRules : List Predicate) :
    p.times (Callback.opening a hideRules showRules) = if p = .content then 0 else 1 := by
  cases p <;> rfl

theorem HookPoint.times_content (p : HookPoint) (content : Text) :
    p.times [.content content] = if p = .content then 1 else 0 := by
  cases p <;> rfl

/-- Blocks are opened by attributes calls and closed by content calls, each with one call
at every point, and at no time are more than `depth` of them open. -/
structure Bracketed (depth : Nat) (calls : List Callback) : Prop where
  equally : ∀ p q : HookPoint, p.times calls = q.times calls
  opened : ∀ front, front <+: calls →
    HookPoint.content.times front ≤ HookPoint.attributes.times front
  within : ∀ front, front <+: calls →
    HookPoint.attributes.times front ≤ HookPoint.content.times front + depth

theorem prefix_append_cases {α : Type} {front x y : List α} (h : front <+: x ++ y) :
    front <+: x ∨ ∃ u, front = x ++ u ∧ u <+: y := by
  obtain ⟨back, hback⟩ := h
  rcases List.append_eq_append_iff.mp hback with ⟨u, hx, -⟩ | ⟨u, hfront, hy⟩
  · exact Or.inl ⟨u, hx.symm⟩
  · exact Or.inr ⟨u, hfront, back, hy.symm⟩

namespace Bracketed

variable {depth : Nat}

theorem of_bounds {calls : List Callback}
    (equally : ∀ p q : HookPoint, p.times calls = q.times calls)
    (bounds : ∀ front, front <+: calls →
      HookPoint.content.times front ≤ HookPoint.attributes.times front ∧
        HookPoint.attributes.times front ≤ HookPoint.content.times front + depth) :
    Bracketed depth calls :=
  ⟨equally, fun front h => (bounds front h).1, fun front h => (bounds front h).2⟩

/-- Calls at no point open no block. -/
theorem of_point?_eq_none {calls : List Callback} (h : ∀ c ∈ calls, c.point? = none) :
    Bracketed depth calls := by
  have hzero : ∀ p : HookPoint, p.times calls = 0 := by
    intro p
    refine List.countP_eq_zero.mpr fun c hc => ?_
    simp [h c hc]
  refine of_bounds (fun p q => (hzero p).trans (hzero q).symm) fun front hfront => ?_
  have hattributes := HookPoint.attributes.times_le hfront
  have hcontent := HookPoint.content.times_le hfront
  rw [hzero] at hattributes hcontent
  omega

theorem nil : Bracketed depth [] := of_point?_eq_none fun _ hc => absurd hc List.not_mem_nil

theorem append {x y : List Callback} (hx : Bracketed depth x) (hy : Bracketed depth y) :
    Bracketed depth (x ++ y) := by
  have hclosed := hx.equally .attributes .content
  refine of_bounds ?_ ?_
  · intro p q
    rw [HookPoint.times_append, HookPoint.times_append, hx.equally p q, hy.equally p q]
  · intro front hfront
    rcases prefix_append_cases hfront with hfront | ⟨u, rfl, hu⟩
    · exact ⟨hx.opened front hfront, hx.within front hfront⟩
    · have hopened := hy.opened u hu
      have hwithin := hy.within u hu
      simp only [HookPoint.times_append]
      omega

theorem flatMap {α : Type} {f : α → List Callback} (h : ∀ a, Bracketed depth (f a))
    (l : List α) : Bracketed depth (l.flatMap f) := by
  induction l with
  | nil => exact nil
  | cons a l ih =>
      rw [List.flatMap_cons]
      exact (h a).append ih

/-- Calls between those that open and the one that closes a block are one block deeper. -/
theorem enclose {inner : List Callback} (h : Bracketed depth inner) (a : Attributes)
    (hideRules showRules : List Predicate) (content : Text) :
    Bracketed (depth + 1)
      (Callback.opening a hideRules showRules ++ (inner ++ [.content content])) := by
  have hclosed := h.equally .attributes .content
  have honce : ∀ p : HookPoint,
      p.times (Callback.opening a hideRules showRules ++ (inner ++ [.content content])) =
        p.times inner + 1 := by
    intro p
    simp only [HookPoint.times_append, HookPoint.times_opening, HookPoint.times_content]
    split <;> omega
  refine of_bounds (fun p q => by rw [honce p, honce q, h.equally p q]) fun front hfront => ?_
  -- a prefix ends in front of the inner calls, among them, or behind them
  rcases prefix_append_cases hfront with hfront | ⟨u, rfl, hu⟩
  · have hattributes := HookPoint.attributes.times_le hfront
    have hcontent := HookPoint.content.times_le hfront
    simp only [HookPoint.times_opening, reduceCtorEq, if_false, if_true] at hattributes hcontent
    omega
  · simp only [HookPoint.times_append, HookPoint.times_opening, reduceCtorEq, if_false, if_true]
    rcases prefix_append_cases hu with hu | ⟨w, rfl, hw⟩
    · have hopened := h.opened u hu
      have hwithin := h.within u hu
      omega
    · have hattributes := HookPoint.attributes.times_le hw
      have hcontent := HookPoint.content.times_le hw
      simp only [HookPoint.times_content, reduceCtorEq, if_false, if_true] at hattributes hcontent
      simp only [HookPoint.times_append]
      omega

end Bracketed

/-! ## The calls of a block -/

structure Hooks.Complete (h : Hooks) : Prop where
  attributes : h.attributes.isSome = true
  hideRules : h.hideRules.isSome = true
  showRules : h.showRules.isSome = true
  content : h.content.isSome = true

theorem Hooks.calls_applyAt {α : Type} {record : α → Callback} {hook : Option (α → α)}
    (h : hook.isSome = true) (value : α) : (applyAt record hook value).calls = [record value] := by
  rw [Traced.calls, events_applyAt, if_pos h]
  rfl

theorem Attributes.calls_parse (raw : Text) : (parse raw).calls = [] := by
  refine Traced.calls_foldlM_of_silent (fun attributes a => ?_) _ _
  rw [assign]
  split <;> rfl

/-- Both passes ask, whatever the first has found. -/
theorem Selector.calls_resolve_of_complete {s : Selector} (complete : s.hooks.Complete)
    (a : Attributes) (body : Text) (v : Viewer) :
    (s.resolve a body v).calls =
      Callback.opening a (Rule.ofSpec (s.attributesOf a).audience)
          (Rule.ofSpec (s.attributesOf a).exclude) ++
        (v.checks ((s.inclusion a).questions v) ++ v.checks ((s.exclusion a).questions v)) := by
  rw [calls_resolve, RuleSet.calls_admits, RuleSet.calls_admits, Hooks.applyAttributes,
    Hooks.applyHideRules, Hooks.applyShowRules, Hooks.calls_applyAt complete.attributes,
    Hooks.calls_applyAt complete.hideRules, Hooks.calls_applyAt complete.showRules]
  rfl

theorem Bracketed.checks {depth : Nat} (v : Viewer) (names : List Text) :
    Bracketed depth (v.checks names) := by
  refine of_point?_eq_none fun c hc => ?_
  obtain ⟨name, -, rfl⟩ := Viewer.eq_capability_of_mem_checks hc
  rfl

def Tiling.blocks (t : Tiling) : List Block := t.tiles.map fun tile => tile.2

namespace Renderer

/-- The calls for a block, where the given ones are for the blocks in its resolved text. -/
def callsAround (r : Renderer) (v : Viewer) (levels : Nat) (b : Block) (nested : List Callback) :
    List Callback :=
  let parsed := (Attributes.parse b.attributes).value
  let hooked := r.selector.attributesOf parsed
  let expanded := (r.renderWithin v levels (r.resolveBlock v b).value).value
  Callback.opening parsed (Rule.ofSpec hooked.audience) (Rule.ofSpec hooked.exclude) ++
    (v.checks ((r.selector.inclusion parsed).questions v) ++
      v.checks ((r.selector.exclusion parsed).questions v) ++ nested ++ [.content expanded])

/-- The calls for a block with the given number of levels left for the blocks in it. -/
def blockTrace (r : Renderer) (v : Viewer) : Nat → Block → List Callback
  | 0, b => r.callsAround v 0 b []
  | levels + 1, b =>
      let resolved := (r.resolveBlock v b).value
      r.callsAround v (levels + 1) b
        ((Tiling.ofDocument r.tags resolved).blocks.flatMap fun inner =>
          blockTrace r v levels inner)

theorem bracketed_callsAround (r : Renderer) (v : Viewer) (levels : Nat) (b : Block) {depth : Nat}
    {nested : List Callback} (h : Bracketed depth nested) :
    Bracketed (depth + 1) (r.callsAround v levels b nested) :=
  (((Bracketed.checks v _).append (Bracketed.checks v _)).append h).enclose _ _ _ _

theorem bracketed_blockTrace (r : Renderer) (v : Viewer) :
    ∀ (levels : Nat) (b : Block), Bracketed (levels + 1) (r.blockTrace v levels b) := by
  intro levels
  induction levels with
  | zero =>
      intro b
      exact r.bracketed_callsAround v 0 b .nil
  | succ levels ih =>
      intro b
      exact r.bracketed_callsAround v (levels + 1) b (.flatMap ih _)

theorem calls_renderWithin_blocks (r : Renderer) (v : Viewer) (levels : Nat) (s : Text) :
    (r.renderWithin v (levels + 1) s).calls =
      (Tiling.ofDocument r.tags s).blocks.flatMap fun b => (r.renderBlock v levels b).calls := by
  rw [calls_renderWithin_succ, Tiling.blocks, List.flatMap_map]

section Complete
variable {r : Renderer} (complete : r.selector.hooks.Complete) (v : Viewer)
include complete

theorem calls_renderBlock (levels : Nat) (b : Block) :
    (r.renderBlock v levels b).calls =
      r.callsAround v levels b (r.renderWithin v levels (r.resolveBlock v b).value).calls := by
  have hresolve : (r.resolveBlock v b).calls =
      (r.selector.resolve (Attributes.parse b.attributes).value b.body v).calls := by
    rw [resolveBlock, Traced.calls_bind, Attributes.calls_parse, List.nil_append]
  rw [renderBlock, Traced.calls_bind, Traced.calls_bind, hresolve, callsAround,
    Selector.calls_resolve_of_complete complete, Hooks.applyContent,
    Hooks.calls_applyAt complete.content]
  simp only [List.append_assoc]

/-- The calls for a block are those of its trace. -/
theorem calls_renderBlock_eq_blockTrace :
    ∀ (levels : Nat) (b : Block), (r.renderBlock v levels b).calls = r.blockTrace v levels b := by
  intro levels
  induction levels with
  | zero => intro b; exact calls_renderBlock complete v 0 b
  | succ levels ih =>
      intro b
      rw [calls_renderBlock complete, calls_renderWithin_blocks, blockTrace]
      simp only [ih]

end Complete

/-- With all hooks registered, the calls are the traces of the blocks of the document,
one after another, and they are bracketed to the depth of the limit. -/
theorem calls_render_bracketed (r : Renderer) (v : Viewer) (document : Text)
    (complete : r.selector.hooks.Complete) :
    (r.render document v).calls =
        ((Tiling.ofDocument r.tags document).blocks.flatMap fun b =>
          r.blockTrace v r.maxDepth b) ∧
      Bracketed (r.maxDepth + 1) (r.render document v).calls := by
  have hcalls : (r.render document v).calls =
      (Tiling.ofDocument r.tags document).blocks.flatMap fun b => r.blockTrace v r.maxDepth b := by
    rw [render, calls_renderWithin_blocks]
    simp only [calls_renderBlock_eq_blockTrace complete]
  refine ⟨hcalls, ?_⟩
  rw [hcalls]
  exact .flatMap (r.bracketed_blockTrace v r.maxDepth) _

/-- A block in a block, hooks that rewrite what they are given, and a host that is asked. -/
theorem calls_render_bracketed_nested :
    let hooks : Hooks :=
      { attributes := some fun a => { a with exclude := "guest".toList },
        hideRules := some List.reverse,
        showRules := some fun rules => ⟨[], "edit".toList⟩ :: rules,
        content := some fun s => '<' :: s }
    let r : Renderer :=
      ⟨{ hooks, hiddenContent := "[hide".toList }, ["hide".toList, "hidethis".toList], 1⟩
    let v := Viewer.anonymous.withCapabilityCheck (· == "read".toList)
    let document := "[hide for=:read]a[hidethis]b[/hidethis][/hide]".toList
    r.selector.hooks.Complete ∧
      (r.render document v).calls =
        ((Tiling.ofDocument r.tags document).blocks.flatMap fun b => r.blockTrace v 1 b) ∧
      Bracketed 2 (r.render document v).calls := by
  intro hooks r v document
  have complete : r.selector.hooks.Complete := ⟨rfl, rfl, rfl, rfl⟩
  exact ⟨complete, r.calls_render_bracketed v document complete⟩

end Renderer

end ContentVisibility
