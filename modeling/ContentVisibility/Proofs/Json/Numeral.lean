import ContentVisibility.Json.Number
import ContentVisibility.Proofs.Text.Parts

/-! # Written numbers

A number is written as an optional minus sign, digits that begin with a zero only
if it is the only one, an optional fraction and an optional power of ten.  All
that is so written is passed over up to its last character, provided that what
follows cannot belong to the number. -/
set_option autoImplicit false

namespace ContentVisibility.Json

structure DigitRun where
  first : Fin 10
  rest : List (Fin 10)
  deriving DecidableEq

def DigitRun.text (ds : DigitRun) : Text :=
  (ds.first :: ds.rest).map fun d : Fin 10 => Nat.digitChar d

structure WholePart extends DigitRun where
  proper : first = 0 → rest = []
  deriving DecidableEq

structure PowerPart where
  isCapital : Bool
  /-- Whether the sign is a minus, if there is one. -/
  sign : Option Bool
  digits : DigitRun
  deriving DecidableEq

def signText (isNegative : Bool) : Char := if isNegative then '-' else '+'

def PowerPart.text (p : PowerPart) : Text :=
  (if p.isCapital then 'E' else 'e') :: ((p.sign.map signText).toList ++ p.digits.text)

structure NumberText where
  isNegative : Bool
  whole : WholePart
  fraction : Option DigitRun
  power : Option PowerPart
  deriving DecidableEq

namespace NumberText

def fractionText (n : NumberText) : Text := n.fraction.elim [] fun ds => '.' :: ds.text

def powerText (n : NumberText) : Text := n.power.elim [] PowerPart.text

def text (n : NumberText) : Text :=
  (if n.isNegative then ['-'] else []) ++ (n.whole.text ++ (n.fractionText ++ n.powerText))

end NumberText

namespace Numeral

theorem isDigit_digitChar (d : Fin 10) : isDigit (Nat.digitChar d) = true := by
  revert d
  decide

theorem digitChar_ne_sign (d : Fin 10) : Nat.digitChar d ≠ '+' ∧ Nat.digitChar d ≠ '-' := by
  revert d
  decide

theorem eq_zero_of_digitChar {d : Fin 10} : Nat.digitChar d = '0' → d = 0 := by
  revert d
  decide

def Stops (s : Text) : Prop := ∀ c ∈ s.head?, isDigit c = false

theorem readDigits_run (ds : DigitRun) {s : Text} (hs : Stops s) :
    readDigits (ds.text ++ s) = .ok (ds.text, s) := by
  have hrun : Text.MaximalRun isDigit ds.text s := by
    refine ⟨fun c hc => ?_, hs⟩
    obtain ⟨d, -, rfl⟩ := List.mem_map.mp hc
    exact isDigit_digitChar d
  have hfirst : isDigit (Nat.digitChar ds.first) = true := isDigit_digitChar ds.first
  have hread : readDigits (ds.text ++ s) =
      .ok (digits (ds.text ++ s), afterDigits (ds.text ++ s)) := if_pos hfirst
  rw [hread, digits, afterDigits, hrun.takeWhile_append, hrun.dropWhile_append]

theorem readWhole_run (whole : WholePart) {s : Text} (hs : Stops s) :
    readWhole (whole.text ++ s) = .ok (whole.text, s) := by
  have hproper : ¬(whole.text.head? = some '0' ∧ 1 < whole.text.length) := by
    rintro ⟨hzero, hlength⟩
    have hrest := whole.proper (eq_zero_of_digitChar (Option.some.inj hzero))
    simp [DigitRun.text, hrest] at hlength
  simp only [readWhole, readDigits_run whole.toDigitRun hs]
  exact if_neg hproper

/-! ## The parts of a number -/

def Ends (s : Text) : Prop := ∀ c ∈ s.head?, isDigit c = false ∧ c ≠ '.' ∧ c ≠ 'e' ∧ c ≠ 'E'

theorem Ends.stops {s : Text} (h : Ends s) : Stops s := fun c hc => (h c hc).1

theorem readFraction_text (n : NumberText) {s : Text}
    (hs : ∀ c ∈ s.head?, isDigit c = false ∧ c ≠ '.') :
    ∃ ds, readFraction (n.fractionText ++ s) = .ok (ds, s) := by
  rw [NumberText.fractionText]
  cases n.fraction with
  | none =>
      refine ⟨[], ?_⟩
      simp only [Option.elim_none, List.nil_append]
      unfold readFraction
      split
      · exact absurd rfl (hs '.' rfl).2
      · rfl
  | some ds => exact ⟨ds.text, readDigits_run ds fun c hc => (hs c hc).1⟩

theorem readPower_text (n : NumberText) {s : Text} (hs : Ends s) :
    ∃ power, readPower (n.powerText ++ s) = .ok (power, s) := by
  rw [NumberText.powerText]
  cases n.power with
  | none =>
      refine ⟨none, ?_⟩
      simp only [Option.elim_none, List.nil_append]
      cases s with
      | nil => rfl
      | cons c rest =>
          obtain ⟨-, -, he, hE⟩ := hs c rfl
          exact if_neg (by simp [he, hE])
  | some p =>
      obtain ⟨isCapital, sign, ds⟩ := p
      have hdigits : readDigits (ds.text ++ s) = .ok (ds.text, s) := readDigits_run ds hs.stops
      have hletter : (if isCapital then 'E' else 'e') = 'e' ∨
          (if isCapital then 'E' else 'e') = 'E' := by
        cases isCapital <;> simp
      simp only [Option.elim_some, PowerPart.text, List.cons_append, readPower, if_pos hletter]
      refine ⟨some (sign.getD false, ds.text), ?_⟩
      have hread (isNegative : Bool) :
          (do
            let r ← readDigits (ds.text ++ s)
            return (some (isNegative, r.1), r.2)) = Except.ok (some (isNegative, ds.text), s) := by
        rw [hdigits]
        rfl
      cases sign with
      | some isNegative => cases isNegative <;> exact hread _
      | none =>
          obtain ⟨hplus, hminus⟩ := digitChar_ne_sign ds.first
          simp only [Option.map_none, Option.toList_none, List.nil_append]
          split
          · rename_i h
            exact absurd (List.cons.inj h).1 hplus
          · rename_i h
            exact absurd (List.cons.inj h).1 hminus
          · exact hread false

theorem ends_powerText (n : NumberText) {s : Text} (hs : Ends s) :
    ∀ c ∈ (n.powerText ++ s).head?, isDigit c = false ∧ c ≠ '.' := by
  intro c hc
  rw [NumberText.powerText] at hc
  cases hp : n.power with
  | none =>
      rw [hp] at hc
      obtain ⟨hdigit, hpoint, -, -⟩ := hs c hc
      exact ⟨hdigit, hpoint⟩
  | some p =>
      rw [hp] at hc
      obtain rfl := Option.some.inj hc
      cases p.isCapital <;> decide

theorem stops_fractionText (n : NumberText) {s : Text} (hs : Ends s) :
    Stops (n.fractionText ++ (n.powerText ++ s)) := by
  intro c hc
  rw [NumberText.fractionText] at hc
  cases hf : n.fraction with
  | none =>
      rw [hf] at hc
      exact (ends_powerText n hs c hc).1
  | some ds =>
      rw [hf] at hc
      obtain rfl := Option.some.inj hc
      rfl

theorem read_text (n : NumberText) {s : Text} (hs : Ends s) :
    ∃ numeral, read (n.text ++ s) = .ok (numeral, s) := by
  have hwhole := readWhole_run n.whole (stops_fractionText n hs)
  obtain ⟨fraction, hfraction⟩ := readFraction_text n (ends_powerText n hs)
  obtain ⟨power, hpower⟩ := readPower_text n hs
  refine ⟨⟨n.isNegative, n.whole.text, fraction, power⟩, ?_⟩
  have hread (isNegative : Bool) :
      (do
        let w ← readWhole (n.whole.text ++ (n.fractionText ++ (n.powerText ++ s)))
        let f ← readFraction w.2
        let p ← readPower f.2
        return (({ isNegative, whole := w.1, fraction := f.1, power := p.1 } : Numeral), p.2)) =
      Except.ok (({ isNegative, whole := n.whole.text, fraction, power } : Numeral), s) := by
    simp only [hwhole, bind, Except.bind, hfraction, hpower]
    rfl
  simp only [NumberText.text, List.append_assoc, read]
  cases n.isNegative with
  | true => exact hread true
  | false =>
      simp only [Bool.false_eq_true, if_false, List.nil_append]
      split
      · rename_i h
        exact absurd (List.cons.inj h).1 (digitChar_ne_sign n.whole.first).2
      · exact hread false

theorem text_head (n : NumberText) :
    ∃ c rest, n.text = c :: rest ∧ (c = '-' ∨ isDigit c = true) := by
  rw [NumberText.text]
  cases n.isNegative with
  | true => exact ⟨_, _, rfl, Or.inl rfl⟩
  | false => exact ⟨_, _, rfl, Or.inr (isDigit_digitChar n.whole.first)⟩

theorem skip_text (n : NumberText) {s : Text} (hs : Ends s) : skip (n.text ++ s) = .ok s := by
  obtain ⟨numeral, h⟩ := read_text n hs
  rw [skip, h]

end Numeral

end ContentVisibility.Json
