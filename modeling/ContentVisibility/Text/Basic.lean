/-! # Texts

A text is a list of characters.  `lowerAscii` folds the case of the ASCII
letters and of nothing else; `utf8Size` is the number of bytes of the text in
UTF-8, and is additive over concatenation. -/
set_option autoImplicit false

namespace ContentVisibility

abbrev Text := List Char

namespace Text

/-- The ASCII capitals become small letters; every other character stays. -/
def lowerAscii (s : Text) : Text := s.map Char.toLower

/-- The number of bytes of the text in UTF-8. -/
def utf8Size (s : Text) : Nat := s.foldr (fun c n => c.utf8Size + n) 0

@[simp] theorem utf8Size_nil : utf8Size [] = 0 := rfl

@[simp] theorem utf8Size_cons (c : Char) (s : Text) :
    utf8Size (c :: s) = c.utf8Size + utf8Size s := rfl

@[simp] theorem utf8Size_append (s t : Text) : utf8Size (s ++ t) = utf8Size s + utf8Size t := by
  induction s with
  | nil => simp
  | cons c s ih =>
      rw [List.cons_append, utf8Size_cons, utf8Size_cons, ih]
      omega

end Text

end ContentVisibility
