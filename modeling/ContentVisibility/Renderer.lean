import ContentVisibility.Attributes.Scan
import ContentVisibility.Selector
import ContentVisibility.Shortcode.Tiling

/-! # Rendering documents

Every block of a document is replaced by the content selected for the viewer;
blocks found in that content are rendered in turn, down to a depth limit, before
the content hook sees it.  Beyond the limit a text is left as it is. -/
set_option autoImplicit false

namespace ContentVisibility

/-! ## Patterns -/

/-- Why tags cannot be looked for. -/
inductive PatternError where
  | malformed (description : Text)
  | tooLarge (limit : Nat)
  deriving DecidableEq

def PatternError.message : PatternError → Text
  | .malformed description => description
  | .tooLarge limit =>
      "Compiled regex exceeds size limit of ".toList ++ Nat.toDigits 10 limit ++ " bytes.".toList

/-- Whether the search for the opening tags of a list compiles. -/
abbrev PatternCompiler := List Text → Except PatternError Unit

/-- A stand-in for the compiler of the search.  That one limits what it compiles to,
which is not computed here; this one refuses tags of many bytes. -/
def PatternCompiler.bySize : PatternCompiler := fun tags =>
  if Text.utf8Size tags.flatten < 500000 then .ok () else .error (.tooLarge 10485760)

/-! ## Renderers -/

structure Renderer where
  selector : Selector
  tags : List Text
  maxDepth : Nat

namespace Renderer

/-- A renderer for the given tags.  Where no tag is given, the empty one is
looked for. -/
def ofTags (selector : Selector) (tags : List Text) (maxDepth : Nat)
    (compile : PatternCompiler := .bySize) : Except PatternError Renderer := do
  compile tags
  return ⟨selector, if tags.isEmpty then [[]] else tags, maxDepth⟩

def ofSettings (settings : RenderSettings) (compile : PatternCompiler := .bySize) :
    Except PatternError Renderer :=
  ofTags (Selector.ofSettings settings) settings.tags settings.maxDepth compile

def withSelector (r : Renderer) (selector : Selector) : Renderer := { r with selector }

/-- Rendering of a text with the given number of levels left. -/
def renderWithin (r : Renderer) (v : Viewer) : Nat → Text → Traced Text
  | 0, document => do
      Traced.log (.nestingTooDeep (r.maxDepth + 1))
      pure document
  | levels + 1, document => do
      let tiling := Tiling.ofDocument r.tags document
      let rendered ← tiling.tiles.mapM fun (before, block) => do
        let attributes ← Attributes.parse block.attributes
        let resolved ← r.selector.resolve attributes block.body v
        let expanded ← renderWithin r v levels resolved
        let content ← r.selector.hooks.applyContent expanded
        pure (before ++ content)
      pure (rendered.flatten ++ tiling.tail)

def render (r : Renderer) (document : Text) (v : Viewer) : Traced Text :=
  r.renderWithin v (r.maxDepth + 1) document

end Renderer

end ContentVisibility
