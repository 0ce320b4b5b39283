import ContentVisibility.Proofs.Attributes
import ContentVisibility.Proofs.Text.Parts

/-! # The grammar of assignments

What an assignment is, said without the reader that finds it.  A name takes in all
the name characters there are, blanks may stand around the equals sign, and a value
stands in quotes or takes in all the characters there are that are neither blank
nor quotes.  `Assignment.read?` reads exactly these (`Assignment.read?_eq_some_iff`).

A place within a name is no worse than its start: what cannot be read at the first
character of a name cannot be read further on in it.  A scan that passes over one
character at a time therefore finds what the scan finds that passes over a name
(`Assignment.scan_cons_of_read?_none`). -/
set_option autoImplicit false

namespace ContentVisibility.Assignment

/-- A value can be read at the front of the text, `after` behind it. -/
inductive ReadsValue : (s value after : Text) → Prop
  | double {value after : Text} (unquoted : '"' ∉ value) :
      ReadsValue ('"' :: (value ++ '"' :: after)) value after
  | single {value after : Text} (unquoted : '\'' ∉ value) :
      ReadsValue ('\'' :: (value ++ '\'' :: after)) value after
  | bare {value after : Text} (ne_nil : value ≠ [])
      (run : Text.MaximalRun isBareChar value after) : ReadsValue (value ++ after) value after

def Reads (s : Text) (a : Assignment) (after : Text) : Prop :=
  ∃ gap gap' written, s = a.name ++ (gap ++ '=' :: (gap' ++ written)) ∧ a.name ≠ [] ∧
    Text.MaximalRun Text.isNameChar a.name (gap ++ '=' :: (gap' ++ written)) ∧
    (∀ c ∈ gap, Text.isBlank c = true) ∧ (∀ c ∈ gap', Text.isBlank c = true) ∧
    ReadsValue written a.value after

theorem isBareChar_eq_false_iff {c : Char} :
    isBareChar c = false ↔ Text.isBlank c = true ∨ isQuote c = true := by
  rw [isBareChar, Bool.not_eq_false', Bool.or_eq_true]

theorem isQuote_iff {c : Char} : isQuote c = true ↔ c = '"' ∨ c = '\'' := by
  rw [isQuote, Bool.or_eq_true, beq_iff_eq, beq_iff_eq]

theorem quotedValue?_eq_some_iff {quote : Char} {s value after : Text} :
    quotedValue? quote s = some (value, after) ↔ quote ∉ value ∧ s = value ++ quote :: after := by
  constructor
  · intro h
    have hrun := Text.maximalRun_takeWhile (· != quote) s
    have hs := List.takeWhile_append_dropWhile (p := (· != quote)) (l := s)
    simp only [quotedValue?] at h
    split at h
    · simp at h
    · rename_i d rest hd
      obtain ⟨rfl, rfl⟩ := Prod.mk.inj (Option.some.inj h)
      rw [hd] at hrun hs
      obtain rfl : d = quote := by simpa using hrun.ends d rfl
      exact ⟨fun hmem => by simpa using hrun.all d hmem, hs.symm⟩
  · intro h
    obtain ⟨hvalue, rfl⟩ := h
    have hrun : Text.MaximalRun (· != quote) value (quote :: after) := by
      refine ⟨fun c hc => bne_iff_ne.mpr fun e => hvalue (e ▸ hc), fun c hc => ?_⟩
      obtain rfl := Option.some.inj hc
      exact bne_self_eq_false _
    simp only [quotedValue?, hrun.takeWhile_append, hrun.dropWhile_append]

theorem bareValue?_eq_some_iff {s value after : Text} :
    bareValue? s = some (value, after) ↔
      value ≠ [] ∧ s = value ++ after ∧ Text.MaximalRun isBareChar value after := by
  constructor
  · intro h
    simp only [bareValue?] at h
    split at h
    · simp at h
    · rename_i hne
      obtain ⟨rfl, rfl⟩ := Prod.mk.inj (Option.some.inj h)
      exact ⟨hne, List.takeWhile_append_dropWhile.symm, Text.maximalRun_takeWhile _ s⟩
  · intro h
    obtain ⟨hne, rfl, hrun⟩ := h
    simp only [bareValue?, hrun.takeWhile_append, hrun.dropWhile_append]

theorem value?_eq_some_iff {s value after : Text} :
    value? s = some (value, after) ↔ ReadsValue s value after := by
  constructor
  · intro h
    cases s with
    | nil => simp [value?] at h
    | cons c rest =>
        rw [value?] at h
        split at h
        · rename_i hquote
          obtain ⟨hvalue, rfl⟩ := quotedValue?_eq_some_iff.mp h
          rcases isQuote_iff.mp hquote with rfl | rfl
          · exact .double hvalue
          · exact .single hvalue
        · obtain ⟨hne, hs, hrun⟩ := bareValue?_eq_some_iff.mp h
          rw [hs]
          exact .bare hne hrun
  · intro h
    cases h with
    | double hvalue => exact value?_quoted rfl hvalue after
    | single hvalue => exact value?_quoted rfl hvalue after
    | bare hne hrun =>
        obtain ⟨c, rest, rfl⟩ := List.exists_cons_of_ne_nil hne
        have hc : isQuote c = false := by
          have hbare := hrun.all c List.mem_cons_self
          rw [isBareChar, Bool.not_eq_true', Bool.or_eq_false_iff] at hbare
          exact hbare.2
        rw [List.cons_append, value?, hc, if_neg Bool.false_ne_true, ← List.cons_append]
        exact bareValue?_eq_some_iff.mpr ⟨hne, rfl, hrun⟩

/-- No value starts with a blank. -/
theorem ReadsValue.head {s value after : Text} (h : ReadsValue s value after) :
    ∀ c ∈ s.head?, Text.isBlank c = false := by
  intro c hc
  cases h with
  | double => obtain rfl := Option.some.inj hc; decide
  | single => obtain rfl := Option.some.inj hc; decide
  | bare hne hrun =>
      obtain ⟨d, rest, rfl⟩ := List.exists_cons_of_ne_nil hne
      obtain rfl : d = c := Option.some.inj hc
      have hbare := hrun.all d List.mem_cons_self
      rw [isBareChar, Bool.not_eq_true', Bool.or_eq_false_iff] at hbare
      exact hbare.1

/-! ## Assignments -/

theorem equals_not_blank : Text.isBlank '=' = false := by decide

theorem dropWhile_gap {gap s : Text} (hgap : ∀ c ∈ gap, Text.isBlank c = true)
    (hs : ∀ c ∈ s.head?, Text.isBlank c = false) : (gap ++ s).dropWhile Text.isBlank = s :=
  Text.MaximalRun.dropWhile_append ⟨hgap, hs⟩

theorem read?_eq_some_iff {s after : Text} {a : Assignment} :
    read? s = some (a, after) ↔ Reads s a after := by
  constructor
  · intro h
    have hname := Text.maximalRun_takeWhile Text.isNameChar s
    have hs := List.takeWhile_append_dropWhile (p := Text.isNameChar) (l := s)
    simp only [read?] at h
    split at h
    · simp at h
    · rename_i hne
      split at h
      · rename_i rest hrest
        obtain ⟨⟨value, r⟩, hvalue, heq⟩ := Option.map_eq_some_iff.mp h
        obtain ⟨rfl, rfl⟩ := Prod.mk.inj heq
        have hgap := List.takeWhile_append_dropWhile (p := Text.isBlank)
          (l := s.dropWhile Text.isNameChar)
        have hgap' := List.takeWhile_append_dropWhile (p := Text.isBlank) (l := rest)
        rw [hrest, ← hgap'] at hgap
        rw [← hgap] at hs hname
        exact ⟨_, _, _, hs.symm, hne, hname, (Text.maximalRun_takeWhile _ _).all,
          (Text.maximalRun_takeWhile _ _).all, value?_eq_some_iff.mp hvalue⟩
      · simp at h
  · intro h
    obtain ⟨gap, gap', written, rfl, hne, hname, hgap, hgap', hvalue⟩ := h
    have hsign : ∀ c ∈ ('=' :: (gap' ++ written)).head?, Text.isBlank c = false := by
      intro c hc
      obtain rfl := Option.some.inj hc
      exact equals_not_blank
    simp only [read?, hname.takeWhile_append, hname.dropWhile_append, dropWhile_gap hgap hsign,
      dropWhile_gap hgap' hvalue.head, value?_eq_some_iff.mpr hvalue, Option.map_some]

theorem Reads.head {s after : Text} {a : Assignment} (h : Reads s a after) :
    ∃ c rest, s = c :: rest ∧ Text.isNameChar c = true := by
  obtain ⟨gap, gap', written, rfl, hne, hname, -⟩ := h
  obtain ⟨c, name, hc⟩ := List.exists_cons_of_ne_nil hne
  rw [hc] at hname ⊢
  exact ⟨c, _, rfl, hname.all c List.mem_cons_self⟩

theorem ReadsValue.exists_source {s value after : Text} (h : ReadsValue s value after) :
    ∃ source, s = source ++ after ∧ value <:+: source := by
  cases h with
  | double => exact ⟨'"' :: (value ++ ['"']), by simp, ['"'], ['"'], rfl⟩
  | single => exact ⟨'\'' :: (value ++ ['\'']), by simp, ['\''], ['\''], rfl⟩
  | bare => exact ⟨value, rfl, List.infix_rfl⟩

/-- The value stands in front of what is left. -/
theorem Reads.exists_source {s after : Text} {a : Assignment} (h : Reads s a after) :
    ∃ source, s = source ++ after ∧ a.value <:+: source := by
  obtain ⟨gap, gap', written, rfl, -, -, -, -, hvalue⟩ := h
  obtain ⟨source, rfl, hin⟩ := hvalue.exists_source
  refine ⟨a.name ++ (gap ++ '=' :: (gap' ++ source)), by simp, hin.trans ?_⟩
  exact ⟨a.name ++ (gap ++ '=' :: gap'), [], by simp⟩

/-- A name may be read from a character in front of it. -/
theorem Reads.cons {s after : Text} {a : Assignment} (h : Reads s a after) {c : Char}
    (hc : Text.isNameChar c = true) : Reads (c :: s) ⟨c :: a.name, a.value⟩ after := by
  obtain ⟨gap, gap', written, rfl, hne, hname, hgap, hgap', hvalue⟩ := h
  refine ⟨gap, gap', written, rfl, List.cons_ne_nil _ _, ⟨?_, hname.ends⟩, hgap, hgap', hvalue⟩
  intro d hd
  rcases List.mem_cons.mp hd with rfl | hd
  · exact hc
  · exact hname.all d hd

theorem scan_cons_of_read?_none {c : Char} {rest : Text} (h : read? (c :: rest) = none) :
    scan (c :: rest) = scan rest := by
  rw [scan_of_read?_none h, skip]
  split
  · rename_i hc
    cases rest with
    | nil => rfl
    | cons d rest =>
        cases hd : Text.isNameChar d with
        | false => rw [List.dropWhile_cons_of_neg (Bool.eq_false_iff.mp hd)]
        | true =>
            -- what could be read at `d` could have been read at `c`
            have hnone : read? (d :: rest) = none := by
              cases hread : read? (d :: rest) with
              | none => rfl
              | some found =>
                  have hcons := (read?_eq_some_iff.mp hread).cons hc
                  rw [read?_eq_some_iff.mpr hcons] at h
                  exact absurd h (Option.some_ne_none _)
            rw [scan_of_read?_none hnone, skip, if_pos hd, List.dropWhile_cons_of_pos hd]
  · rfl

end ContentVisibility.Assignment
