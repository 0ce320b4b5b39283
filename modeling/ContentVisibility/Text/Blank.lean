import ContentVisibility.Text.Ranges

/-! # White space

`isBlank` is the Unicode property White_Space: twenty-five code points in ten
ranges.  `trim` removes the blanks at both ends, so what it leaves neither
starts nor ends with one. -/
set_option autoImplicit false

namespace ContentVisibility.Text

def blankRanges : Ranges :=
  [(0x9, 0xD), (0x20, 0x20), (0x85, 0x85), (0xA0, 0xA0), (0x1680, 0x1680), (0x2000, 0x200A),
   (0x2028, 0x2029), (0x202F, 0x202F), (0x205F, 0x205F), (0x3000, 0x3000)]

def isBlank (c : Char) : Bool := blankRanges.contains c.toNat

def trimStart (s : Text) : Text := s.dropWhile isBlank

def trimEnd (s : Text) : Text := (s.reverse.dropWhile isBlank).reverse

def trim (s : Text) : Text := trimEnd (trimStart s)

theorem blankRanges_ascending : blankRanges.Ascending := by decide

theorem trimStart_of_not_blank {c : Char} {s : Text} (h : isBlank c = false) :
    trimStart (c :: s) = c :: s := by
  simp [trimStart, h]

theorem trimStart_append_of_blank {w s : Text} (h : ∀ c ∈ w, isBlank c = true) :
    trimStart (w ++ s) = trimStart s := by
  induction w with
  | nil => rfl
  | cons c w ih =>
      have hc : isBlank c = true := h c List.mem_cons_self
      have hw : ∀ d ∈ w, isBlank d = true := fun d hd => h d (List.mem_cons_of_mem _ hd)
      have := ih hw
      simp only [trimStart, List.cons_append, List.dropWhile_cons, hc, if_true] at this ⊢
      exact this

theorem trimEnd_append_of_blank {s w : Text} (h : ∀ c ∈ w, isBlank c = true) :
    trimEnd (s ++ w) = trimEnd s := by
  have := trimStart_append_of_blank (w := w.reverse) (s := s.reverse)
    (fun c hc => h c (List.mem_reverse.mp hc))
  simp only [trimStart] at this
  simp [trimEnd, this]

end ContentVisibility.Text
