import ContentVisibility.Text.Blank
import ContentVisibility.Text.Cut

/-! # Parts of a text

A piece between separators, and what remains of a text without the blanks at its
ends, stand in the text as they are.  Texts without the separator are the pieces
of the text that they are joined to, and a text without a blank at its ends is
what remains of it whatever blanks are put around it.  A run of characters that
ends where the class ends is what taking the class off the front yields. -/
set_option autoImplicit false

namespace ContentVisibility.Text

theorem joined_cons (sep : Char) (s : Text) (rest : List Text) :
    joined sep (s :: rest) = s ++ rest.flatMap (sep :: ·) := by
  induction rest generalizing s with
  | nil => simp [joined]
  | cons t rest ih =>
      rw [joined, ih, List.flatMap_cons]
      rfl

theorem isInfix_joined_of_mem {sep : Char} {t : Text} :
    ∀ {ts : List Text}, t ∈ ts → t <:+: joined sep ts := by
  intro ts
  induction ts with
  | nil => intro h; exact absurd h List.not_mem_nil
  | cons first rest ih =>
      intro h
      cases rest with
      | nil =>
          rw [List.mem_singleton.mp h]
          exact List.infix_rfl
      | cons second others =>
          rw [joined]
          rcases List.mem_cons.mp h with rfl | h
          · exact (List.prefix_append _ _).isInfix
          · exact List.infix_append_of_infix_right (List.infix_cons (ih h))

theorem isInfix_of_mem_pieces {sep : Char} {s t : Text} (h : t ∈ pieces sep s) : t <:+: s := by
  have hin : t <:+: joined sep (pieces sep s) := isInfix_joined_of_mem h
  rw [joined_pieces] at hin
  exact hin

theorem trim_isInfix (s : Text) : trim s <:+: s := by
  have hstart : trimStart s <:+: s := (List.dropWhile_suffix isBlank).isInfix
  have hend : trimEnd (trimStart s) <:+: trimStart s := by
    have h : (trimStart s).reverse.dropWhile isBlank <:+: (trimStart s).reverse :=
      (List.dropWhile_suffix isBlank).isInfix
    rw [← List.reverse_infix, List.reverse_reverse] at h
    exact h
  exact hend.trans hstart

theorem pieces_joined {sep : Char} :
    ∀ {ts : List Text}, ts ≠ [] → (∀ t ∈ ts, sep ∉ t) → pieces sep (joined sep ts) = ts := by
  intro ts
  induction ts with
  | nil => intro hne; exact absurd rfl hne
  | cons first rest ih =>
      intro _ h
      have hfirst : pieces sep first = [first] := pieces_of_not_mem (h first List.mem_cons_self)
      cases rest with
      | nil => exact hfirst
      | cons second others =>
          have hrest := ih (List.cons_ne_nil _ _) fun t ht => h t (List.mem_cons_of_mem _ ht)
          rw [joined, pieces_append, hfirst, hrest, List.singleton_append]

def Trimmed (s : Text) : Prop :=
  (∀ c ∈ s.head?, isBlank c = false) ∧ ∀ c ∈ s.getLast?, isBlank c = false

instance (s : Text) : Decidable (Trimmed s) :=
  decidable_of_iff (s.head?.all (!isBlank ·) = true ∧ s.getLast?.all (!isBlank ·) = true) (by
    simp [Trimmed, Option.all_eq_true])

theorem Trimmed.append {s t : Text} (hs : Trimmed s) (ht : Trimmed t) : Trimmed (s ++ t) := by
  constructor
  · intro c hc
    rw [List.head?_append] at hc
    rcases Option.or_eq_some_iff.mp hc with hc | ⟨-, hc⟩
    · exact hs.1 c hc
    · exact ht.1 c hc
  · intro c hc
    rw [List.getLast?_append] at hc
    rcases Option.or_eq_some_iff.mp hc with hc | ⟨-, hc⟩
    · exact ht.2 c hc
    · exact hs.2 c hc

theorem Trimmed.cons {c : Char} {s : Text} (hc : isBlank c = false) (hs : Trimmed s) :
    Trimmed (c :: s) := by
  have hsingle : Trimmed [c] := by simp [Trimmed, hc]
  exact hsingle.append hs

theorem trimStart_of_head {s : Text} (h : ∀ c ∈ s.head?, isBlank c = false) : trimStart s = s := by
  cases s with
  | nil => rfl
  | cons c s => exact trimStart_of_not_blank (h c rfl)

theorem trim_padded {s w w' : Text} (hs : Trimmed s) (hw : ∀ c ∈ w, isBlank c = true)
    (hw' : ∀ c ∈ w', isBlank c = true) : trim (w ++ (s ++ w')) = s := by
  obtain ⟨hhead, hlast⟩ := hs
  cases s with
  | nil =>
      have hblank : ∀ c ∈ w ++ w', isBlank c = true := by
        intro c hc
        exact (List.mem_append.mp hc).elim (hw c) (hw' c)
      have hstart : trimStart (w ++ w' ++ []) = [] := trimStart_append_of_blank hblank
      rw [List.append_nil] at hstart
      rw [List.nil_append, trim, hstart]
      rfl
  | cons c s =>
      have hstart : trimStart ((c :: s) ++ w') = (c :: s) ++ w' := trimStart_of_head hhead
      have hend : trimStart (c :: s).reverse = (c :: s).reverse := by
        apply trimStart_of_head
        rw [List.head?_reverse]
        exact hlast
      rw [trim, trimStart_append_of_blank hw, hstart, trimEnd_append_of_blank hw', trimEnd]
      rw [trimStart] at hend
      rw [hend, List.reverse_reverse]

/-! ## Runs -/

/-- Characters of a class, and all there are of it before `after`. -/
structure MaximalRun (p : Char → Bool) (run after : Text) : Prop where
  all : ∀ c ∈ run, p c = true
  ends : ∀ c ∈ after.head?, p c = false

theorem maximalRun_takeWhile (p : Char → Bool) (s : Text) :
    MaximalRun p (s.takeWhile p) (s.dropWhile p) where
  all := List.all_eq_true.mp List.all_takeWhile
  ends c hc := by
    have h := List.head?_dropWhile_not p s
    rw [hc] at h
    exact h

section Run
variable {p : Char → Bool} {run after : Text}

theorem dropWhile_eq_self (h : ∀ c ∈ after.head?, p c = false) : after.dropWhile p = after := by
  cases after with
  | nil => rfl
  | cons c rest => exact List.dropWhile_cons_of_neg (Bool.eq_false_iff.mp (h c rfl))

theorem takeWhile_eq_nil (h : ∀ c ∈ after.head?, p c = false) : after.takeWhile p = [] := by
  cases after with
  | nil => rfl
  | cons c rest => exact List.takeWhile_cons_of_neg (Bool.eq_false_iff.mp (h c rfl))

theorem MaximalRun.takeWhile_append (h : MaximalRun p run after) :
    (run ++ after).takeWhile p = run := by
  rw [List.takeWhile_append_of_pos h.all, takeWhile_eq_nil h.ends, List.append_nil]

theorem MaximalRun.dropWhile_append (h : MaximalRun p run after) :
    (run ++ after).dropWhile p = after := by
  rw [List.dropWhile_append_of_pos h.all, dropWhile_eq_self h.ends]

end Run

end ContentVisibility.Text
