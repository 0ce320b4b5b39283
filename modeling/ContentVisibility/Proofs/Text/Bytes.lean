import ContentVisibility.Text.Basic

/-! # Texts as bytes in UTF-8

A place in a text is the number of bytes in front of it.  Some places fall within
a character: a text can be cut only at a boundary, which the byte at the place
tells, and a slice exists exactly where both its ends are boundaries and in order
(`isSome_slice?_iff`).  No character begins with a byte from within another, so
wherever the bytes of a pattern stand the pattern itself does
(`occursAt_iff`). -/
set_option autoImplicit false

namespace ContentVisibility.Text

def bytes (s : Text) : List UInt8 := s.flatMap String.utf8EncodeChar

/-- Characters are not cut by a cut at this place: a character begins here, or
nothing follows. -/
def IsBoundary (bytes : List UInt8) (place : Nat) : Prop :=
  place = bytes.length ∨ ∃ b, bytes[place]? = some b ∧ b.IsUTF8FirstByte

structure IsRange (bytes : List UInt8) (start stop : Nat) : Prop where
  ordered : start ≤ stop
  bounded : stop ≤ bytes.length
  start_boundary : IsBoundary bytes start
  stop_boundary : IsBoundary bytes stop

def OccursAt (pattern : Text) (bytes : List UInt8) (place : Nat) : Prop :=
  Text.bytes pattern <+: bytes.drop place

def splitAt? : Text → Nat → Option (Text × Text)
  | s, 0 => some ([], s)
  | [], _ + 1 => none
  | c :: rest, n + 1 =>
      if c.utf8Size ≤ n + 1 then
        (splitAt? rest (n + 1 - c.utf8Size)).map fun (front, back) => (c :: front, back)
      else none

/-- The text between two places; nothing where it cannot be cut out. -/
def slice? (s : Text) (start stop : Nat) : Option Text :=
  if start ≤ stop then do
    let (_, back) ← splitAt? s start
    let (part, _) ← splitAt? back (stop - start)
    pure part
  else none

@[simp] theorem bytes_nil : bytes [] = [] := rfl

@[simp] theorem bytes_cons (c : Char) (s : Text) :
    bytes (c :: s) = String.utf8EncodeChar c ++ bytes s := List.flatMap_cons

@[simp] theorem bytes_append (s t : Text) : bytes (s ++ t) = bytes s ++ bytes t :=
  List.flatMap_append

@[simp] theorem length_bytes (s : Text) : (bytes s).length = utf8Size s := by
  induction s with
  | nil => rfl
  | cons c s ih =>
      rw [bytes_cons, List.length_append, String.length_utf8EncodeChar, ih, utf8Size_cons]

theorem utf8Size_eq_zero_iff {s : Text} : utf8Size s = 0 ↔ s = [] := by
  cases s with
  | nil => simp
  | cons c s =>
      have hpos := c.utf8Size_pos
      simp only [utf8Size_cons, reduceCtorEq, iff_false]
      omega

/-- Of two fronts of one text the smaller starts the larger. -/
theorem isPrefix_of_utf8Size_le {x y z w : Text} (h : x ++ z = y ++ w)
    (hsize : utf8Size x ≤ utf8Size y) : x <+: y := by
  rcases List.append_eq_append_iff.mp h with ⟨v, rfl, -⟩ | ⟨v, rfl, -⟩
  · exact List.prefix_append x v
  · have hv : utf8Size v = 0 := by
      rw [utf8Size_append] at hsize
      omega
    exact ⟨[], by rw [utf8Size_eq_zero_iff.mp hv, List.append_nil, List.append_nil]⟩

theorem isBoundary_length (bytes : List UInt8) : IsBoundary bytes bytes.length := Or.inl rfl

theorem exists_first_byte (c : Char) (more : List UInt8) :
    ∃ b, (String.utf8EncodeChar c ++ more)[0]? = some b ∧ b.IsUTF8FirstByte := by
  have hpos : 0 < (String.utf8EncodeChar c).length := by
    rw [String.length_utf8EncodeChar]
    exact c.utf8Size_pos
  refine ⟨(String.utf8EncodeChar c)[0], ?_, UInt8.isUTF8FirstByte_getElem_utf8EncodeChar.mpr rfl⟩
  rw [List.getElem?_append_left hpos, List.getElem?_eq_getElem hpos]

theorem isBoundary_append (front back : Text) :
    IsBoundary (bytes (front ++ back)) (utf8Size front) := by
  cases back with
  | nil =>
      rw [List.append_nil, ← length_bytes]
      exact isBoundary_length _
  | cons c back =>
      obtain ⟨b, hb, hfirst⟩ := exists_first_byte c (bytes back)
      refine Or.inr ⟨b, ?_, hfirst⟩
      rw [bytes_append, ← length_bytes, List.getElem?_append_right (Nat.le_refl _), Nat.sub_self,
        bytes_cons, hb]

/-- A first byte begins a character of the text: no other byte of a character is
one. -/
theorem exists_eq_append_of_isBoundary {s : Text} :
    ∀ {place : Nat}, IsBoundary (bytes s) place →
      ∃ front back, s = front ++ back ∧ utf8Size front = place := by
  induction s with
  | nil =>
      intro place h
      rcases h with rfl | ⟨b, hb, -⟩
      · exact ⟨[], [], rfl, rfl⟩
      · simp at hb
  | cons c s ih =>
      intro place h
      by_cases hplace : place < (String.utf8EncodeChar c).length
      · rcases h with h | ⟨b, hb, hfirst⟩
        · rw [bytes_cons, List.length_append] at h
          omega
        · rw [bytes_cons, List.getElem?_append_left hplace, List.getElem?_eq_getElem hplace] at hb
          rw [← Option.some.inj hb, UInt8.isUTF8FirstByte_getElem_utf8EncodeChar] at hfirst
          exact ⟨[], c :: s, rfl, hfirst.symm⟩
      · have hle := Nat.le_of_not_lt hplace
        have hrest : IsBoundary (bytes s) (place - (String.utf8EncodeChar c).length) := by
          rcases h with h | ⟨b, hb, hfirst⟩
          · rw [bytes_cons, List.length_append] at h
            exact Or.inl (by omega)
          · rw [bytes_cons, List.getElem?_append_right hle] at hb
            exact Or.inr ⟨b, hb, hfirst⟩
        obtain ⟨front, back, rfl, hfront⟩ := ih hrest
        refine ⟨c :: front, back, rfl, ?_⟩
        rw [String.length_utf8EncodeChar] at hfront hle
        rw [utf8Size_cons]
        omega

theorem isBoundary_iff {s : Text} {place : Nat} :
    IsBoundary (bytes s) place ↔ ∃ front back, s = front ++ back ∧ utf8Size front = place := by
  constructor
  · exact exists_eq_append_of_isBoundary
  · intro h
    obtain ⟨front, back, rfl, rfl⟩ := h
    exact isBoundary_append front back

theorem isRange_append (front part back : Text) :
    IsRange (bytes (front ++ (part ++ back))) (utf8Size front)
      (utf8Size front + utf8Size part) where
  ordered := Nat.le_add_right _ _
  bounded := by
    simp only [length_bytes, utf8Size_append]
    omega
  start_boundary := isBoundary_append front (part ++ back)
  stop_boundary := by
    rw [← utf8Size_append, ← List.append_assoc]
    exact isBoundary_append (front ++ part) back

theorem isRange_rest (front back : Text) :
    IsRange (bytes (front ++ back)) (utf8Size front) (bytes (front ++ back)).length := by
  have h := isRange_append front back []
  rw [List.append_nil, ← utf8Size_append] at h
  rw [length_bytes]
  exact h

theorem isRange_iff {s : Text} {start stop : Nat} :
    IsRange (bytes s) start stop ↔
      ∃ front part back, s = front ++ (part ++ back) ∧ utf8Size front = start ∧
        utf8Size front + utf8Size part = stop := by
  constructor
  · intro h
    obtain ⟨front, rest, rfl, rfl⟩ := isBoundary_iff.mp h.start_boundary
    obtain ⟨long, back, hlong, rfl⟩ := isBoundary_iff.mp h.stop_boundary
    obtain ⟨part, rfl⟩ := isPrefix_of_utf8Size_le hlong h.ordered
    rw [List.append_assoc] at hlong
    refine ⟨front, part, back, hlong, rfl, ?_⟩
    rw [utf8Size_append]
  · intro h
    obtain ⟨front, part, back, rfl, rfl, rfl⟩ := h
    exact isRange_append front part back

/-! ## Slices -/

theorem splitAt?_append (back : Text) :
    ∀ front : Text, splitAt? (front ++ back) (utf8Size front) = some (front, back) := by
  intro front
  induction front with
  | nil => rw [List.nil_append, utf8Size_nil, splitAt?]
  | cons c front ih =>
      obtain ⟨n, hn⟩ := Nat.exists_eq_succ_of_ne_zero (Nat.ne_of_gt c.utf8Size_pos)
      have hplace : utf8Size (c :: front) = n + utf8Size front + 1 := by
        rw [utf8Size_cons, hn]
        omega
      have hle : c.utf8Size ≤ n + utf8Size front + 1 := by omega
      have hsub : n + utf8Size front + 1 - c.utf8Size = utf8Size front := by omega
      rw [hplace, List.cons_append, splitAt?, if_pos hle, hsub, ih]
      rfl

theorem eq_of_splitAt? {s : Text} :
    ∀ {place : Nat} {front back : Text}, splitAt? s place = some (front, back) →
      s = front ++ back ∧ utf8Size front = place := by
  induction s with
  | nil =>
      intro place front back h
      cases place with
      | zero =>
          obtain ⟨rfl, rfl⟩ := Prod.mk.inj (Option.some.inj h)
          exact ⟨rfl, rfl⟩
      | succ n => simp [splitAt?] at h
  | cons c rest ih =>
      intro place front back h
      cases place with
      | zero =>
          obtain ⟨rfl, rfl⟩ := Prod.mk.inj (Option.some.inj h)
          exact ⟨rfl, rfl⟩
      | succ n =>
          rw [splitAt?] at h
          split at h
          · rename_i hle
            obtain ⟨⟨f, b⟩, hsplit, heq⟩ := Option.map_eq_some_iff.mp h
            obtain ⟨rfl, rfl⟩ := Prod.mk.inj heq
            obtain ⟨rfl, hsize⟩ := ih hsplit
            refine ⟨rfl, ?_⟩
            rw [utf8Size_cons]
            omega
          · simp at h

theorem slice?_append (front part back : Text) :
    slice? (front ++ (part ++ back)) (utf8Size front) (utf8Size front + utf8Size part) =
      some part := by
  rw [slice?, if_pos (Nat.le_add_right _ _), splitAt?_append, Nat.add_sub_cancel_left]
  simp only [Option.bind_eq_bind, Option.bind_some, splitAt?_append]
  rfl

theorem slice?_rest (front back : Text) :
    slice? (front ++ back) (utf8Size front) (utf8Size (front ++ back)) = some back := by
  have h := slice?_append front back []
  rw [List.append_nil, ← utf8Size_append] at h
  exact h

theorem slice?_eq_some_iff {s part : Text} {start stop : Nat} :
    slice? s start stop = some part ↔
      ∃ front back, s = front ++ (part ++ back) ∧ utf8Size front = start ∧
        utf8Size front + utf8Size part = stop := by
  constructor
  · intro h
    rw [slice?] at h
    split at h
    · rename_i hle
      obtain ⟨⟨front, rest⟩, hfront, h⟩ := Option.bind_eq_some_iff.mp h
      obtain ⟨⟨p, back⟩, hpart, h⟩ := Option.bind_eq_some_iff.mp h
      obtain rfl : p = part := Option.some.inj h
      obtain ⟨rfl, hsize⟩ := eq_of_splitAt? hfront
      obtain ⟨rfl, hlen⟩ := eq_of_splitAt? hpart
      exact ⟨front, back, rfl, hsize, by omega⟩
    · simp at h
  · intro h
    obtain ⟨front, back, rfl, rfl, rfl⟩ := h
    exact slice?_append front part back

theorem isSome_slice?_iff {s : Text} {start stop : Nat} :
    (slice? s start stop).isSome = true ↔ IsRange (bytes s) start stop := by
  rw [isRange_iff, Option.isSome_iff_exists]
  simp only [slice?_eq_some_iff]
  exact exists_comm

example : slice? "üß".toList 2 4 = some "ß".toList ∧ slice? "üß".toList 2 3 = none := by decide

theorem bytes_isPrefix_iff {p s : Text} : bytes p <+: bytes s ↔ p <+: s := by
  constructor
  · intro h
    obtain ⟨more, hmore⟩ := h
    apply List.isPrefix_of_utf8Encode_append_eq_utf8Encode more.toByteArray
    rw [List.utf8Encode, List.utf8Encode, ← List.toByteArray_append]
    exact congrArg List.toByteArray hmore
  · intro h
    obtain ⟨more, rfl⟩ := h
    rw [bytes_append]
    exact List.prefix_append _ _

theorem occursAt_append {p front back : Text} :
    OccursAt p (bytes (front ++ back)) (utf8Size front) ↔ p <+: back := by
  rw [OccursAt, bytes_append, ← length_bytes, List.drop_left, bytes_isPrefix_iff]

/-- A pattern that is not empty begins with a first byte, so it does not stand
within a character. -/
theorem OccursAt.isBoundary {p : Text} {bs : List UInt8} {place : Nat} (h : OccursAt p bs place)
    (hne : p ≠ []) : IsBoundary bs place := by
  obtain ⟨c, p, rfl⟩ := List.exists_cons_of_ne_nil hne
  obtain ⟨more, hmore⟩ := h
  obtain ⟨b, hb, hfirst⟩ := exists_first_byte c (bytes p ++ more)
  refine Or.inr ⟨b, ?_, hfirst⟩
  calc bs[place]? = (bs.drop place)[0]? := by rw [List.getElem?_drop, Nat.add_zero]
    _ = (String.utf8EncodeChar c ++ (bytes p ++ more))[0]? := by
        rw [← hmore, bytes_cons, List.append_assoc]
    _ = some b := hb

theorem occursAt_iff {p s : Text} {place : Nat} (hne : p ≠ []) :
    OccursAt p (bytes s) place ↔
      ∃ front back, s = front ++ back ∧ utf8Size front = place ∧ p <+: back := by
  constructor
  · intro h
    obtain ⟨front, back, rfl, rfl⟩ := isBoundary_iff.mp (h.isBoundary hne)
    exact ⟨front, back, rfl, rfl, occursAt_append.mp h⟩
  · intro h
    obtain ⟨front, back, rfl, rfl, hback⟩ := h
    exact occursAt_append.mpr hback

end ContentVisibility.Text
