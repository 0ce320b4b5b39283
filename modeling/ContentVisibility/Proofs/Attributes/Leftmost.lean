import ContentVisibility.Proofs.Attributes.Choices

/-! # Attributes by the leftmost assignments

A search from left to right takes the earliest place where an assignment can be read
and goes on behind that assignment, so what stands within one is no place to read
another from (`Assignment.Leftmost`).  The scan finds what this search finds,
whichever of two notions of reading it goes by: the grammar, or the preferred match
of the pattern.  An attribute then has the value of the last assignment with its
name, and no assignment with another name leaves more than an entry in the log
(`Attributes.parse_leftmost`). -/
set_option autoImplicit false

namespace ContentVisibility

namespace Assignment

/-- What is found from left to right, where `reads` says what can be read at the front of
a text and what is left behind it. -/
inductive Leftmost (reads : Text → Assignment → Text → Prop) : Text → List Assignment → Prop
  | done {s : Text} (nowhere : ∀ t, t <:+ s → ∀ a after, ¬ reads t a after) : Leftmost reads s []
  | find (passed : Text) {s after : Text} {a : Assignment} {later : List Assignment}
      (earliest : ∀ front back, passed = front ++ back → back ≠ [] →
        ∀ b rest, ¬ reads (back ++ s) b rest)
      (here : reads s a after) (behind : Leftmost reads after later) :
      Leftmost reads (passed ++ s) (a :: later)

def Prefers (s : Text) (a : Assignment) (after : Text) : Prop :=
  (ways s).head? = some (a, after)

theorem prefers_iff {s after : Text} {a : Assignment} : Prefers s a after ↔ Reads s a after := by
  rw [Prefers, head?_ways, read?_eq_some_iff]

theorem not_reads_iff {s : Text} : (∀ a after, ¬ Reads s a after) ↔ read? s = none := by
  rw [Option.eq_none_iff_forall_ne_some, Prod.forall]
  exact forall_congr' fun a => forall_congr' fun after => not_congr read?_eq_some_iff.symm

theorem Leftmost.cons {reads : Text → Assignment → Text → Prop} {c : Char} {s : Text}
    {finds : List Assignment} (hc : ∀ a after, ¬ reads (c :: s) a after)
    (h : Leftmost reads s finds) : Leftmost reads (c :: s) finds := by
  cases h with
  | done nowhere =>
      refine .done fun t ht => ?_
      rcases List.suffix_cons_iff.mp ht with rfl | ht
      · exact hc
      · exact nowhere t ht
  | @find passed s after a later earliest here behind =>
      refine .find (c :: passed) (fun front back hpassed hne => ?_) here behind
      cases front with
      | nil =>
          obtain rfl : c :: passed = back := hpassed
          exact hc
      | cons d front => exact earliest front back (List.cons.inj hpassed).2 hne

theorem Leftmost.eq_scan {s : Text} {finds : List Assignment} (h : Leftmost Reads s finds) :
    finds = scan s := by
  induction h with
  | @done s nowhere =>
      induction s with
      | nil => exact scan_nil.symm
      | cons c s ih =>
          have hnone := not_reads_iff.mp (nowhere (c :: s) (List.suffix_refl _))
          rw [scan_cons_of_read?_none hnone]
          exact ih fun t ht => nowhere t (ht.trans (List.suffix_cons c s))
  | @find passed s after a later earliest here behind ih =>
      induction passed with
      | nil => rw [List.nil_append, scan_of_read?_some (read?_eq_some_iff.mpr here), ih]
      | cons c passed ihp =>
          have hnone := not_reads_iff.mp (earliest [] (c :: passed) rfl (List.cons_ne_nil _ _))
          rw [List.cons_append] at hnone ⊢
          rw [scan_cons_of_read?_none hnone]
          refine ihp fun front back hpassed hne => ?_
          exact earliest (c :: front) back (by rw [hpassed, List.cons_append]) hne

theorem leftmost_scan (s : Text) : Leftmost Reads s (scan s) := by
  -- on the length, since the search goes on behind what it has found
  induction hn : s.length using Nat.strongRecOn generalizing s with
  | ind n ih =>
      subst hn
      cases s with
      | nil =>
          rw [scan_nil]
          refine .done fun t ht a after hreads => ?_
          obtain ⟨c, rest, rfl, -⟩ := hreads.head
          exact List.cons_ne_nil _ _ (List.suffix_nil.mp ht)
      | cons c rest =>
          cases hread : read? (c :: rest) with
          | none =>
              rw [scan_cons_of_read?_none hread]
              exact (ih rest.length (by simp) rest rfl).cons (not_reads_iff.mpr hread)
          | some found =>
              obtain ⟨a, after⟩ := found
              rw [scan_of_read?_some hread]
              refine .find [] (fun front back hpassed hne => ?_)
                (read?_eq_some_iff.mp hread)
                (ih after.length (length_of_read? hread) after rfl)
              exact absurd (List.append_eq_nil_iff.mp hpassed.symm).2 hne

theorem leftmost_iff {s : Text} {finds : List Assignment} :
    Leftmost Reads s finds ↔ finds = scan s :=
  ⟨Leftmost.eq_scan, fun h => h ▸ leftmost_scan s⟩

/-- An assignment that is found stands in the text, and those found after it stand
behind it. -/
theorem Leftmost.exists_source {s : Text} {earlier later : List Assignment} {a : Assignment} :
    ∀ {finds}, Leftmost Reads s finds → finds = earlier ++ a :: later →
      ∃ before source after, s = before ++ (source ++ after) ∧ a.value <:+: source ∧
        Reads (source ++ after) a after ∧ Leftmost Reads after later := by
  intro finds h
  induction h generalizing earlier with
  | done =>
      intro heq
      exact absurd heq.symm (List.append_ne_nil_of_right_ne_nil _ (List.cons_ne_nil _ _))
  | @find passed s after b rest earliest here behind ih =>
      intro heq
      obtain ⟨source, rfl, hvalue⟩ := here.exists_source
      cases earlier with
      | nil =>
          obtain ⟨rfl, rfl⟩ := List.cons.inj heq
          exact ⟨passed, source, after, rfl, hvalue, here, behind⟩
      | cons c earlier =>
          obtain ⟨before, source', after', hs, hrest⟩ := ih (List.cons.inj heq).2
          refine ⟨passed ++ (source ++ before), source', after', ?_, hrest⟩
          rw [hs, List.append_assoc, List.append_assoc]

/-- The assignment is for the attribute; capitals count as small letters. -/
def Names (a : Assignment) (name : AttributeName) : Prop :=
  Text.lowerAscii a.name = Keyword.text name

instance (a : Assignment) (name : AttributeName) : Decidable (a.Names name) :=
  inferInstanceAs (Decidable (_ = _))

instance (a : Assignment) : Decidable (∃ name, a.Names name) :=
  decidable_of_iff (∃ name ∈ (Keyword.all : List AttributeName), a.Names name)
    (exists_congr fun name => and_iff_right (Keyword.mem_all name))

/-- The value of the last of the assignments that is for the attribute. -/
def last? (assignments : List Assignment) (name : AttributeName) : Option Text :=
  ((assignments.filter fun a => decide (a.Names name)).getLast?).map Assignment.value

theorem last?_cons (a : Assignment) (rest : List Assignment) (name : AttributeName) :
    last? (a :: rest) name =
      (last? rest name).or (if a.Names name then some a.value else none) := by
  rw [last?, last?, List.filter_cons]
  by_cases h : a.Names name
  · rw [if_pos (decide_eq_true h), if_pos h, List.getLast?_cons]
    cases (rest.filter fun a => decide (a.Names name)).getLast? <;> rfl
  · rw [if_neg (mt of_decide_eq_true h), if_neg h, Option.or_none]

end Assignment

namespace Attributes

/-! ## Attributes -/

theorem get_value_foldlM_assign_eq (name : AttributeName) :
    ∀ (assignments : List Assignment) (attributes : Attributes),
      (assignments.foldlM assign attributes).value.get name =
        (Assignment.last? assignments name).getD (attributes.get name) := by
  intro assignments
  induction assignments with
  | nil => intro attributes; rfl
  | cons a rest ih =>
      intro attributes
      have hassign : (attributes.assign a).value.get name =
          if a.Names name then a.value else attributes.get name := get_value_assign _ _ _
      rw [List.foldlM_cons, Traced.value_bind, ih, hassign, Assignment.last?_cons]
      by_cases h : a.Names name
      · rw [if_pos h, if_pos h]
        cases Assignment.last? rest name <;> rfl
      · rw [if_neg h, if_neg h, Option.or_none]

theorem events_assign (attributes : Attributes) (a : Assignment) :
    (attributes.assign a).events =
      if ∃ name, a.Names name then []
      else [.logged (.unknownAttribute (Text.lowerAscii a.name))] := by
  simp only [assign]
  split
  · rename_i known hknown
    rw [if_pos ⟨known, Keyword.eq_text_of_read? hknown⟩]
    rfl
  · rename_i hnone
    have hother : ¬ ∃ name, a.Names name := not_exists.mpr (Keyword.read?_eq_none_iff.mp hnone)
    rw [if_neg hother]
    rfl

theorem events_foldlM_assign :
    ∀ (assignments : List Assignment) (attributes : Attributes),
      (assignments.foldlM assign attributes).events =
        (assignments.filter fun a => !decide (∃ name, a.Names name)).map
          fun a => .logged (.unknownAttribute (Text.lowerAscii a.name)) := by
  intro assignments
  induction assignments with
  | nil => intro attributes; rfl
  | cons a rest ih =>
      intro attributes
      rw [List.foldlM_cons, Traced.events_bind, ih, events_assign, List.filter_cons]
      by_cases h : ∃ name, a.Names name
      · simp only [if_pos h, decide_eq_true h, Bool.not_true, if_neg Bool.false_ne_true,
          List.nil_append]
      · simp only [if_neg h, decide_eq_false h, Bool.not_false, if_true, List.map_cons,
          List.singleton_append]

/-- The attributes of a text are those of the assignments found from left to right, be it
by the grammar or by the preferred matches of the pattern.  Of several assignments for an
attribute the last one counts, and where there is none the default; an assignment with
another name only leaves an entry in the log.  Each assignment stands behind those found
before it, so none stands in the value of another. -/
theorem parse_leftmost (raw : Text) :
    ∃ finds : List Assignment,
      (∀ found, Assignment.Leftmost Assignment.Reads raw found ↔ found = finds) ∧
      (∀ found, Assignment.Leftmost Assignment.Prefers raw found ↔ found = finds) ∧
      (∀ name, (parse raw).value.get name =
        (Assignment.last? finds name).getD (({} : Attributes).get name)) ∧
      (parse raw).events =
        (finds.filter fun a => !decide (∃ name, a.Names name)).map
          (fun a => .logged (.unknownAttribute (Text.lowerAscii a.name))) ∧
      ∀ earlier a later, finds = earlier ++ a :: later →
        ∃ before source after, raw = before ++ (source ++ after) ∧ a.value <:+: source ∧
          Assignment.Reads (source ++ after) a after ∧
          Assignment.Leftmost Assignment.Reads after later := by
  have hprefers : Assignment.Prefers = Assignment.Reads := by
    funext s a after
    exact propext Assignment.prefers_iff
  refine ⟨Assignment.scan raw, fun found => Assignment.leftmost_iff, fun found => ?_,
    fun name => get_value_foldlM_assign_eq name _ _, events_foldlM_assign _ _,
    fun earlier a later h => (Assignment.leftmost_scan raw).exists_source h⟩
  rw [hprefers]
  exact Assignment.leftmost_iff

end Attributes

end ContentVisibility
