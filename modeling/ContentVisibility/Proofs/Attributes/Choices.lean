import ContentVisibility.Proofs.Attributes.Grammar

/-! # Assignments as a pattern with choices

The pattern of an assignment as a search with backtracking reads it: a run may be
cut short anywhere, the longest first, and a value in double quotes is preferred to
one in single quotes and that one to a bare value.  `Assignment.ways` lists all the
ways to match the pattern at the front of a text, the preferred one first, with no
word about where a run should end.

No choice but the length of a bare value leads anywhere: a name or a gap that is cut
short is followed by one of its own characters, and the pattern does not go on with
it.  The preferred way is therefore what the reader reads (`Assignment.head?_ways`). -/
set_option autoImplicit false

namespace ContentVisibility

namespace Text

/-- The ways to take characters of a class off the front, the longest first. -/
def runs (p : Char → Bool) : Text → List (Text × Text)
  | [] => [([], [])]
  | c :: rest =>
      if p c then (runs p rest).map (fun (run, after) => (c :: run, after)) ++ [([], c :: rest)]
      else [([], c :: rest)]

def someRuns (p : Char → Bool) : Text → List (Text × Text)
  | [] => []
  | c :: rest =>
      if p c then (runs p rest).map fun (run, after) => (c :: run, after) else []

def literal (c : Char) : Text → List Text
  | [] => []
  | d :: rest => if d = c then [rest] else []

@[simp] theorem literal_cons_self (c : Char) (s : Text) : literal c (c :: s) = [s] := if_pos rfl

theorem literal_cons_of_ne {c d : Char} (h : d ≠ c) (s : Text) : literal c (d :: s) = [] := if_neg h

theorem runs_of_head {p : Char → Bool} {s : Text} (h : ∀ c ∈ s.head?, p c = false) :
    runs p s = [([], s)] := by
  cases s with
  | nil => rfl
  | cons c rest => exact if_neg (Bool.eq_false_iff.mp (h c rfl))

theorem someRuns_of_head {p : Char → Bool} {s : Text} (h : ∀ c ∈ s.head?, p c = false) :
    someRuns p s = [] := by
  cases s with
  | nil => rfl
  | cons c rest => exact if_neg (Bool.eq_false_iff.mp (h c rfl))

/-- A run that is cut short need not be tried if nothing goes on with a character of
the class. -/
theorem flatMap_runs {α : Type} {p : Char → Bool} :
    ∀ {f : Text × Text → List α}, (∀ run c rest, p c = true → f (run, c :: rest) = []) →
      ∀ s, (runs p s).flatMap f = f (s.takeWhile p, s.dropWhile p) := by
  intro f h s
  induction s generalizing f with
  | nil => exact List.append_nil _
  | cons c rest ih =>
      cases hc : p c with
      | false =>
          have hhead : ∀ d ∈ (c :: rest).head?, p d = false := by
            intro d hd
            obtain rfl := Option.some.inj hd
            exact hc
          rw [runs_of_head hhead, takeWhile_eq_nil hhead, dropWhile_eq_self hhead,
            List.flatMap_singleton]
      | true =>
          have hrest := ih (f := fun (run, after) => f (c :: run, after))
            fun run d after hd => h (c :: run) d after hd
          rw [runs, if_pos hc, List.flatMap_append, List.flatMap_map, List.flatMap_singleton,
            h [] c rest hc, List.append_nil, List.takeWhile_cons_of_pos hc,
            List.dropWhile_cons_of_pos hc]
          exact hrest

theorem flatMap_someRuns {α : Type} {p : Char → Bool} {f : Text × Text → List α}
    (h : ∀ run c rest, p c = true → f (run, c :: rest) = []) (s : Text) :
    (someRuns p s).flatMap f =
      match s.takeWhile p with
      | [] => []
      | run => f (run, s.dropWhile p) := by
  cases s with
  | nil => rfl
  | cons c rest =>
      cases hc : p c with
      | false =>
          rw [someRuns, if_neg (Bool.eq_false_iff.mp hc),
            List.takeWhile_cons_of_neg (Bool.eq_false_iff.mp hc)]
          rfl
      | true =>
          rw [someRuns, if_pos hc, List.flatMap_map, List.takeWhile_cons_of_pos hc,
            List.dropWhile_cons_of_pos hc]
          exact flatMap_runs (f := fun (run, after) => f (c :: run, after))
            (fun run d after hd => h (c :: run) d after hd) rest

theorem head?_runs (p : Char → Bool) (s : Text) :
    (runs p s).head? = some (s.takeWhile p, s.dropWhile p) := by
  induction s with
  | nil => rfl
  | cons c rest ih =>
      cases hc : p c with
      | false => simp [runs, hc]
      | true => simp [runs, hc, ih]

def Ranges.Apart (rs qs : Ranges) : Prop := ∀ r ∈ rs, ∀ q ∈ qs, r.2 < q.1 ∨ q.2 < r.1

instance (rs qs : Ranges) : Decidable (rs.Apart qs) :=
  inferInstanceAs (Decidable (∀ r ∈ rs, ∀ q ∈ qs, r.2 < q.1 ∨ q.2 < r.1))

theorem blankRanges_apart : blankRanges.Apart wordRanges := by decide +kernel

theorem isNameChar_of_isBlank {c : Char} (h : isBlank c = true) : isNameChar c = false := by
  obtain ⟨r, hr, hlo, hhi⟩ := Ranges.exists_of_contains h
  rw [isNameChar, Bool.or_eq_false_iff]
  constructor
  · refine beq_eq_false_iff_ne.mpr fun hc => ?_
    subst hc
    exact absurd h (by decide)
  · refine Bool.eq_false_iff.mpr fun hword => ?_
    obtain ⟨q, hq, hlo', hhi'⟩ := Ranges.exists_of_contains hword
    rcases blankRanges_apart r hr q hq with hlt | hlt
    · omega
    · omega

end Text

namespace Assignment

/-! ## The pattern -/

def quotedWays (quote : Char) (s : Text) : List (Text × Text) :=
  (Text.literal quote s).flatMap fun s =>
    (Text.runs (· != quote) s).flatMap fun (value, s) =>
      (Text.literal quote s).map fun after => (value, after)

def valueWays (s : Text) : List (Text × Text) :=
  quotedWays '"' s ++ (quotedWays '\'' s ++ Text.someRuns isBareChar s)

def waysBehindSign (name s : Text) : List (Assignment × Text) :=
  (Text.runs Text.isBlank s).flatMap fun (_, s) =>
    (valueWays s).map fun (value, after) => (⟨name, value⟩, after)

def waysBehindName (name s : Text) : List (Assignment × Text) :=
  (Text.runs Text.isBlank s).flatMap fun (_, s) =>
    (Text.literal '=' s).flatMap (waysBehindSign name)

/-- The ways to match the pattern at the front of the text. -/
def ways (s : Text) : List (Assignment × Text) :=
  (Text.someRuns Text.isNameChar s).flatMap fun (name, s) => waysBehindName name s

theorem quotedWays_cons_self (quote : Char) (s : Text) :
    quotedWays quote (quote :: s) = (quotedValue? quote s).toList := by
  have hruns : (Text.runs (· != quote) s).flatMap (fun (value, s) =>
      (Text.literal quote s).map fun after => (value, after)) =
      (Text.literal quote (s.dropWhile (· != quote))).map
        fun after => (s.takeWhile (· != quote), after) := by
    refine Text.flatMap_runs (fun run c rest hc => ?_) s
    simp only [Text.literal_cons_of_ne (bne_iff_ne.mp hc), List.map_nil]
  rw [quotedWays, Text.literal_cons_self, List.flatMap_singleton, hruns, quotedValue?]
  cases hdrop : s.dropWhile (· != quote) with
  | nil => rfl
  | cons c after =>
      have hrun := Text.maximalRun_takeWhile (· != quote) s
      rw [hdrop] at hrun
      obtain rfl : c = quote := by simpa using hrun.ends c rfl
      rw [Text.literal_cons_self, List.map_singleton, Option.toList_some]

theorem quotedWays_cons_of_ne {quote c : Char} (h : c ≠ quote) (s : Text) :
    quotedWays quote (c :: s) = [] := by
  rw [quotedWays, Text.literal_cons_of_ne h, List.flatMap_nil]

theorem head?_someRuns_isBareChar (s : Text) :
    (Text.someRuns isBareChar s).head? = bareValue? s := by
  cases s with
  | nil => rfl
  | cons c rest =>
      rw [bareValue?]
      cases hc : isBareChar c with
      | false => simp [Text.someRuns, hc]
      | true => simp [Text.someRuns, hc, Text.head?_runs]

theorem someRuns_isBareChar_of_isQuote {c : Char} (h : isQuote c = true) (s : Text) :
    Text.someRuns isBareChar (c :: s) = [] := by
  refine Text.someRuns_of_head fun d hd => ?_
  obtain rfl := Option.some.inj hd
  exact isBareChar_eq_false_iff.mpr (Or.inr h)

theorem head?_valueWays (s : Text) : (valueWays s).head? = value? s := by
  cases s with
  | nil => rfl
  | cons c rest =>
      rw [valueWays, value?]
      cases hc : isQuote c with
      | true =>
          rw [someRuns_isBareChar_of_isQuote hc, List.append_nil, if_pos rfl]
          rcases isQuote_iff.mp hc with rfl | rfl
          · rw [quotedWays_cons_self, quotedWays_cons_of_ne (by decide), List.append_nil,
              Option.head?_toList]
          · rw [quotedWays_cons_self, quotedWays_cons_of_ne (by decide), List.nil_append,
              Option.head?_toList]
      | false =>
          have hne : ∀ quote, isQuote quote = true → c ≠ quote := by
            intro quote hquote e
            rw [e, hquote] at hc
            exact Bool.noConfusion hc
          rw [quotedWays_cons_of_ne (hne '"' rfl), quotedWays_cons_of_ne (hne '\'' rfl),
            List.nil_append, List.nil_append, if_neg Bool.false_ne_true,
            head?_someRuns_isBareChar]

theorem valueWays_of_isBlank {c : Char} (h : Text.isBlank c = true) (s : Text) :
    valueWays (c :: s) = [] := by
  have hne : ∀ quote, isQuote quote = true → c ≠ quote := by
    intro quote hquote e
    subst e
    rcases isQuote_iff.mp hquote with rfl | rfl
    · exact absurd h (by decide)
    · exact absurd h (by decide)
  have hbare : Text.someRuns isBareChar (c :: s) = [] := by
    refine Text.someRuns_of_head fun d hd => ?_
    obtain rfl := Option.some.inj hd
    exact isBareChar_eq_false_iff.mpr (Or.inl h)
  rw [valueWays, quotedWays_cons_of_ne (hne '"' rfl), quotedWays_cons_of_ne (hne '\'' rfl), hbare]
  rfl

theorem waysBehindSign_eq (name s : Text) :
    waysBehindSign name s =
      (valueWays (s.dropWhile Text.isBlank)).map fun (value, after) => (⟨name, value⟩, after) := by
  refine Text.flatMap_runs (fun run c rest hc => ?_) s
  simp only [valueWays_of_isBlank hc, List.map_nil]

theorem waysBehindName_eq (name s : Text) :
    waysBehindName name s =
      (Text.literal '=' (s.dropWhile Text.isBlank)).flatMap (waysBehindSign name) := by
  refine Text.flatMap_runs (fun run c rest hc => ?_) s
  have hne : c ≠ '=' := by
    intro e
    rw [e, equals_not_blank] at hc
    exact Bool.noConfusion hc
  simp only [Text.literal_cons_of_ne hne, List.flatMap_nil]

theorem waysBehindName_of_isNameChar {c : Char} (h : Text.isNameChar c = true) (name s : Text) :
    waysBehindName name (c :: s) = [] := by
  have hblank : ¬ Text.isBlank c = true := by
    intro hc
    rw [Text.isNameChar_of_isBlank hc] at h
    exact Bool.noConfusion h
  have hne : c ≠ '=' := by
    intro e
    rw [e] at h
    exact absurd h (by decide)
  rw [waysBehindName_eq, List.dropWhile_cons_of_neg hblank, Text.literal_cons_of_ne hne,
    List.flatMap_nil]

theorem head?_waysBehindName (name s : Text) :
    (waysBehindName name s).head? =
      match s.dropWhile Text.isBlank with
      | '=' :: rest =>
          (value? (rest.dropWhile Text.isBlank)).map fun (value, after) => (⟨name, value⟩, after)
      | _ => none := by
  rw [waysBehindName_eq]
  split
  · rename_i rest hrest
    rw [hrest, Text.literal_cons_self, List.flatMap_singleton, waysBehindSign_eq, List.head?_map,
      head?_valueWays]
  · rename_i hno
    cases hrest : s.dropWhile Text.isBlank with
    | nil => rfl
    | cons c rest =>
        have hne : c ≠ '=' := fun e => hno rest (by rw [hrest, e])
        rw [Text.literal_cons_of_ne hne]
        rfl

theorem head?_ways (s : Text) : (ways s).head? = read? s := by
  rw [ways, Text.flatMap_someRuns fun run c rest hc => waysBehindName_of_isNameChar hc run rest,
    read?]
  cases s.takeWhile Text.isNameChar with
  | nil => rfl
  | cons c name => exact head?_waysBehindName (c :: name) _

end Assignment

end ContentVisibility
