import ContentVisibility.Rule.Predicate
import ContentVisibility.Text.Blank
import ContentVisibility.Text.Cut

/-! # Rule lists

A rule text lists tokens between commas.  Blanks around a token do not count;
blank tokens stay in the list, but the empty text lists nothing. -/
set_option autoImplicit false

namespace ContentVisibility.Rule

def listSeparator : Char := ','

def tokens (spec : Text) : List Text :=
  if spec.isEmpty then [] else (Text.pieces listSeparator spec).map Text.trim

def ofTokens (ts : List Text) : List Predicate := ts.map Predicate.parse

def ofSpec (spec : Text) : List Predicate := ofTokens (tokens spec)

@[simp] theorem tokens_nil : tokens [] = [] := rfl

@[simp] theorem ofSpec_nil : ofSpec [] = [] := rfl

theorem tokens_of_ne_nil {spec : Text} (h : spec ≠ []) :
    tokens spec = (Text.pieces listSeparator spec).map Text.trim := by
  simp [tokens, h]

theorem tokens_append {a b : Text} (ha : a ≠ []) (hb : b ≠ []) :
    tokens (a ++ listSeparator :: b) = tokens a ++ tokens b := by
  rw [tokens_of_ne_nil ha, tokens_of_ne_nil hb, tokens_of_ne_nil (by simp),
    Text.pieces_append, List.map_append]

end ContentVisibility.Rule
