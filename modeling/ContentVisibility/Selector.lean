import ContentVisibility.Settings.Basic
import ContentVisibility.Hooks
import ContentVisibility.Rule.Judgement

/-! # Selecting the content of a block

Two passes decide what a viewer sees of a block.  The inclusion pass shows the
body to those the audience names and the hidden content to all others; the
exclusion pass puts the hidden content back for those it names.  Both passes
always run.  A block under self-test then gets a marker that says whether the
result is what the test expects. -/
set_option autoImplicit false

namespace ContentVisibility

/-! ## Self-test markers -/

inductive TestMode where
  /-- The body is expected. -/
  | content
  /-- Nothing is expected. -/
  | empty
  deriving DecidableEq

instance : Keyword TestMode where
  text
    | .content => "content".toList
    | .empty => "empty".toList
  all := [.content, .empty]
  mem_all a := by cases a <;> simp
  text_injective a b := by cases a <;> cases b <;> decide

def TestMode.passes (mode : TestMode) (body content : Text) : Bool :=
  match mode with
  | .content => content == body
  | .empty => content.isEmpty

def passedMarker : Text := " TEST PASSED!".toList

def failedMarker : Text := " TEST FAILED!".toList

def testMarker (test body content : Text) : Text :=
  match Keyword.read? (α := TestMode) test with
  | some mode => if mode.passes body content then passedMarker else failedMarker
  | none => []

def annotate (test body content : Text) : Text := content ++ testMarker test body content

/-! ## Selectors -/

structure Selector where
  hooks : Hooks := {}
  hiddenContent : Text := []

namespace Selector

def ofSettings (settings : RenderSettings) : Selector := { hiddenContent := settings.hiddenContent }

def withHooks (s : Selector) (hooks : Hooks) : Selector := { s with hooks }

def withHiddenContent (s : Selector) (hiddenContent : Text) : Selector := { s with hiddenContent }

/-- Both passes and the marker. -/
def resolve (s : Selector) (attributes : Attributes) (body : Text) (v : Viewer) :
    Traced Text := do
  let attributes ← s.hooks.applyAttributes attributes
  let hideRules ← s.hooks.applyHideRules (Rule.ofSpec attributes.audience)
  let showRules ← s.hooks.applyShowRules (Rule.ofSpec attributes.exclude)
  let inclusion := RuleSet.ofParts attributes.audience hideRules
  let exclusion := RuleSet.ofParts attributes.exclude showRules
  let included ← inclusion.choose body s.hiddenContent v
  let visible ← exclusion.choose s.hiddenContent included v
  Traced.log (.blockResolved attributes.audience attributes.exclude (visible == body))
  pure (annotate attributes.test body visible)

/-- The resolved block after the content hook. -/
def select (s : Selector) (attributes : Attributes) (body : Text) (v : Viewer) :
    Traced Text := do
  let content ← s.resolve attributes body v
  s.hooks.applyContent content

end Selector

/-- Selection without hooks and with nothing in place of hidden content. -/
def resolveVisibility (audience exclude test body : Text) (v : Viewer) : Traced Text :=
  ({} : Selector).select { audience, exclude, test } body v

end ContentVisibility
