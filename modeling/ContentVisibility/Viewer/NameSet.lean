import ContentVisibility.Text.Order

/-! # Sets of names

A set of names is kept as a strictly ascending list, so two sets with the same
members are equal. -/
set_option autoImplicit false

namespace ContentVisibility

structure NameSet where
  names : List Text
  ascending : names.Pairwise Text.Before

namespace NameSet

def empty : NameSet := ⟨[], List.Pairwise.nil⟩

def contains (s : NameSet) (name : Text) : Bool := s.names.contains name

def size (s : NameSet) : Nat := s.names.length

def isEmpty (s : NameSet) : Bool := s.names.isEmpty

instance : Membership Text NameSet where
  mem s name := name ∈ s.names

/-! ## Insertion -/

def insertName (name : Text) : List Text → List Text
  | [] => [name]
  | n :: rest =>
      if Text.Before name n then name :: n :: rest
      else if name = n then n :: rest
      else n :: insertName name rest

theorem mem_insertName {name x : Text} :
    ∀ {names : List Text}, x ∈ insertName name names ↔ x = name ∨ x ∈ names := by
  intro names
  induction names with
  | nil => simp [insertName]
  | cons n rest ih =>
      simp only [insertName]
      split
      · simp
      · split
        · rename_i h
          subst h
          simp
        · simp only [List.mem_cons, ih]
          constructor
          · rintro (h | h | h)
            · exact Or.inr (Or.inl h)
            · exact Or.inl h
            · exact Or.inr (Or.inr h)
          · rintro (h | h | h)
            · exact Or.inr (Or.inl h)
            · exact Or.inl h
            · exact Or.inr (Or.inr h)

theorem insertName_ascending (name : Text) :
    ∀ {names : List Text}, names.Pairwise Text.Before → (insertName name names).Pairwise Text.Before := by
  intro names
  induction names with
  | nil => intro _; simp [insertName]
  | cons n rest ih =>
      intro h
      obtain ⟨hn, hrest⟩ := List.pairwise_cons.mp h
      simp only [insertName]
      split
      · rename_i hlt
        refine List.pairwise_cons.mpr ⟨fun x hx => ?_, h⟩
        rcases List.mem_cons.mp hx with rfl | hx
        · exact hlt
        · exact Text.before_trans hlt (hn x hx)
      · split
        · exact h
        · rename_i hlt hne
          refine List.pairwise_cons.mpr ⟨fun x hx => ?_, ih hrest⟩
          rcases mem_insertName.mp hx with rfl | hx
          · exact Text.before_total hlt hne
          · exact hn x hx

def insert (s : NameSet) (name : Text) : NameSet :=
  ⟨insertName name s.names, insertName_ascending name s.ascending⟩

def ofList (names : List Text) : NameSet := names.foldl insert empty

/-! ## Membership -/

theorem mem_def {s : NameSet} {x : Text} : x ∈ s ↔ x ∈ s.names := Iff.rfl

@[simp] theorem not_mem_empty (x : Text) : x ∉ empty := fun h => nomatch h

@[simp] theorem mem_insert {s : NameSet} {name x : Text} : x ∈ s.insert name ↔ x = name ∨ x ∈ s :=
  mem_insertName

@[simp] theorem contains_iff_mem {s : NameSet} {x : Text} : s.contains x = true ↔ x ∈ s := by
  simp [contains, mem_def]

theorem mem_foldl_insert {x : Text} (names : List Text) :
    ∀ s : NameSet, x ∈ names.foldl insert s ↔ x ∈ names ∨ x ∈ s := by
  induction names with
  | nil => intro s; simp
  | cons n rest ih =>
      intro s
      simp only [List.foldl_cons, ih, mem_insert, List.mem_cons]
      constructor
      · rintro (h | h | h)
        · exact Or.inl (Or.inr h)
        · exact Or.inl (Or.inl h)
        · exact Or.inr h
      · rintro ((h | h) | h)
        · exact Or.inr (Or.inl h)
        · exact Or.inl h
        · exact Or.inr (Or.inr h)

@[simp] theorem mem_ofList {names : List Text} {x : Text} : x ∈ ofList names ↔ x ∈ names := by
  simp [ofList, mem_foldl_insert]

/-- A strictly ascending list is determined by its members. -/
theorem eq_of_ascending :
    ∀ {a b : List Text}, a.Pairwise Text.Before → b.Pairwise Text.Before → (∀ x, x ∈ a ↔ x ∈ b) → a = b := by
  intro a
  induction a with
  | nil =>
      intro b _ _ h
      cases b with
      | nil => rfl
      | cons y ys => exact absurd ((h y).mpr List.mem_cons_self) List.not_mem_nil
  | cons x xs ih =>
      intro b ha hb h
      cases b with
      | nil => exact absurd ((h x).mp List.mem_cons_self) List.not_mem_nil
      | cons y ys =>
          obtain ⟨hx, hxs⟩ := List.pairwise_cons.mp ha
          obtain ⟨hy, hys⟩ := List.pairwise_cons.mp hb
          have hxy : x = y := by
            rcases List.mem_cons.mp ((h x).mp List.mem_cons_self) with e | hm
            · exact e
            · rcases List.mem_cons.mp ((h y).mpr List.mem_cons_self) with e | hm'
              · exact e.symm
              · exact absurd (Text.before_trans (hy x hm) (hx y hm')) (Text.before_irrefl y)
          subst hxy
          refine congrArg (x :: ·) (ih hxs hys fun z => ?_)
          constructor
          · intro hz
            rcases List.mem_cons.mp ((h z).mp (List.mem_cons_of_mem _ hz)) with e | hm
            · exact absurd (e ▸ hx z hz) (Text.before_irrefl x)
            · exact hm
          · intro hz
            rcases List.mem_cons.mp ((h z).mpr (List.mem_cons_of_mem _ hz)) with e | hm
            · exact absurd (e ▸ hy z hz) (Text.before_irrefl x)
            · exact hm

theorem ext {s t : NameSet} (h : ∀ x, x ∈ s ↔ x ∈ t) : s = t := by
  obtain ⟨a, ha⟩ := s
  obtain ⟨b, hb⟩ := t
  have : a = b := eq_of_ascending ha hb h
  subst this
  rfl

end NameSet

end ContentVisibility
