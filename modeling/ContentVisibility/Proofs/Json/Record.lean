import ContentVisibility.Json.Record
import ContentVisibility.Proofs.Json.Tree

/-! # Reading well-formed records

A reader is sound for a kind of value when it reads every tree of that kind as
the value the tree stands for, whatever blanks come before and whatever may
follow a value comes after.  What a record takes from an object is a relation
with one case a member: a member that is no field changes nothing, a field not
yet seen stores its value.  Every object that the relation covers is read as the
relation says, with its members in any order and gaps anywhere. -/
set_option autoImplicit false

namespace ContentVisibility.Json

def Tree.boolean? : Tree → Option Bool
  | .boolean b => some b
  | _ => none

def Tree.spelled? : Tree → Option Text
  | .literal l => l.spelled?
  | _ => none

section Kinds
variable {α : Type} {read : Reader α} {kind? : Tree → Option α}

def Elements.values? (kind? : Tree → Option α) : Elements → Option (List α)
  | .nil => some []
  | .cons _ value _ rest => do return (← kind? value) :: (← rest.values? kind?)

def Tree.values? (kind? : Tree → Option α) : Tree → Option (List α)
  | .list elements _ => elements.values? kind?
  | _ => none

def Reads (read : Reader α) (kind? : Tree → Option α) : Prop :=
  ∀ {t : Tree} {x : α}, kind? t = some x →
    ∀ {r s : Text}, Delimited s → skipBlanks r = t.text ++ s → read r = .ok (x, s)

theorem reads_text : Reads readText Tree.spelled? := by
  intro t x h r s _ hr
  cases t with
  | literal l =>
      rw [Tree.text, Literal.quotedText_append] at hr
      rw [readText, hr]
      exact readChars_literal h s
  | null | boolean _ | number _ | list _ _ | object _ _ => exact nomatch h

theorem reads_bool : Reads readBool Tree.boolean? := by
  intro t x h r s _ hr
  cases t with
  | boolean b =>
      obtain rfl := Option.some.inj h
      rw [readBool, hr]
      cases b <;> rfl
  | null | literal _ | number _ | list _ _ | object _ _ => exact nomatch h

theorem readElements_gap {fuel : Nat} {first : Bool} (gap : Gap) (s : Text) :
    readElements read fuel first (gap.text ++ s) = readElements read fuel first s := by
  cases fuel with
  | zero => rfl
  | succ fuel => simp only [readElements, nextElement_gap]

theorem readElements_elements (hread : Reads read kind?) {elements : Elements} {xs : List α}
    (h : elements.values? kind? = some xs) {fuel : Nat} {first : Bool}
    (hfuel : (elements.text first).length < fuel) (gap : Gap) (s : Text) :
    readElements read fuel first (elements.text first ++ (gap.text ++ ']' :: s)) = .ok (xs, s) := by
  obtain ⟨fuel, rfl⟩ : ∃ n, fuel = n + 1 := ⟨fuel - 1, by omega⟩
  match elements with
  | .nil =>
      obtain rfl := Option.some.inj h
      simp only [Elements.text, List.nil_append, readElements, nextElement_gap, nextElement_close]
      rfl
  | .cons before value after rest =>
      simp only [Elements.values?, Option.bind_eq_bind, Option.bind_eq_some_iff] at h
      obtain ⟨x, hx, xs', hxs, heq⟩ := h
      obtain rfl := Option.some.inj heq
      have hlength := value.length_pos
      simp only [Elements.text, List.length_append] at hfuel
      have htail := delimited_gap after (rest.delimited (delimited_closeList gap s))
      have hrest : readElements read fuel false (rest.text false ++ (gap.text ++ ']' :: s)) =
          .ok (xs', s) := readElements_elements hread hxs (by omega) gap s
      obtain ⟨front, hitem, hfront⟩ := nextElement_tree .full first before value
        (after.text ++ (rest.text false ++ (gap.text ++ ']' :: s)))
      have hvalue := hread hx htail hfront
      simp only [Elements.text, List.append_assoc, readElements, hitem, bind, Except.bind, hvalue,
        readElements_gap, hrest]
      rfl

theorem reads_list (hread : Reads read kind?) : Reads (readList read) (Tree.values? kind?) := by
  intro t x h r s _ hr
  cases t with
  | list elements gap =>
      have hopen : (Tree.list elements gap).text ++ s =
          '[' :: (elements.text true ++ (gap.text ++ ']' :: s)) := by
        simp [Tree.text]
      rw [readList, hr, hopen]
      apply readElements_elements hread h
      rw [List.length_append]
      omega
  | null | literal _ | number _ | boolean _ | object _ _ => exact nomatch h

end Kinds

/-! ## Members -/

variable {σ : Type}

def Field.Takes (f : Field σ) (t : Tree) (acc acc' : σ) : Prop :=
  ∀ {r s : Text}, Delimited s → skipBlanks r = t.text ++ s → f.read acc r = .ok (acc', s)

theorem Field.takes_of {α : Type} {name : String} {read : Reader α} {store : σ → α → σ}
    {kind? : Tree → Option α} (hread : Reads read kind?) {t : Tree} {x : α} (h : kind? t = some x)
    (acc : σ) : (Field.of name read store).Takes t acc (store acc x) := by
  intro r s hs hr
  have hvalue := hread h hs hr
  simp only [Field.of, hvalue]
  rfl

namespace Record

variable (r : Record σ)

def field? (name : Text) : Option (Field σ) := r.fields.find? fun f => f.name == name

/-- What the members make of a record when the fields in `seen` are already read. -/
inductive Takes : List Text → σ → Members → σ → Prop where
  | nil {seen : List Text} {acc : σ} : Takes seen acc .nil acc
  | unknown {seen : List Text} {acc out : σ} {frame : Frame} {value : Tree} {rest : Members}
      {name : Text} (hkey : frame.key.spelled? = some name) (hfield : r.field? name = none)
      (hrest : Takes seen acc rest out) : Takes seen acc (.cons frame value rest) out
  | known {seen : List Text} {acc acc' out : σ} {frame : Frame} {value : Tree} {rest : Members}
      {name : Text} {f : Field σ} (hkey : frame.key.spelled? = some name)
      (hfield : r.field? name = some f) (hnew : name ∉ seen) (hvalue : f.Takes value acc acc')
      (hrest : Takes (name :: seen) acc' rest out) : Takes seen acc (.cons frame value rest) out

variable {r}

theorem readMembers_gap {fuel : Nat} {first : Bool} {seen : List Text} {acc : σ} (gap : Gap)
    (s : Text) :
    r.readMembers fuel first seen acc (gap.text ++ s) = r.readMembers fuel first seen acc s := by
  cases fuel with
  | zero => rfl
  | succ fuel => simp only [readMembers, nextKey_gap]

section Step
variable {fuel : Nat} {first : Bool} {seen : List Text} {acc acc' : σ} {frame : Frame}
  {value : Tree} {tail name : Text}

theorem readMembers_unknown (hkey : frame.key.spelled? = some name) (hfield : r.field? name = none)
    (htail : Delimited tail) :
    r.readMembers (fuel + 1) first seen acc
        (separator first ++ (frame.text ++ (value.text ++ tail))) =
      r.readMembers fuel false seen acc tail := by
  have hname := readChars_literal hkey (frame.behindKey (value.text ++ tail))
  have hskip := skipValue_tree frame.afterColon value htail
  rw [field?] at hfield
  simp only [readMembers, nextKey_frame, bind, Except.bind, hname, hfield, readColon_behindKey,
    hskip]

theorem readMembers_known {f : Field σ} (hkey : frame.key.spelled? = some name)
    (hfield : r.field? name = some f) (hnew : name ∉ seen) (hvalue : f.Takes value acc acc')
    (htail : Delimited tail) :
    r.readMembers (fuel + 1) first seen acc
        (separator first ++ (frame.text ++ (value.text ++ tail))) =
      r.readMembers fuel false (name :: seen) acc' tail := by
  have hname := readChars_literal hkey (frame.behindKey (value.text ++ tail))
  have hblanks : skipBlanks (frame.afterColon.text ++ (value.text ++ tail)) =
      value.text ++ tail := by
    rw [skipBlanks_gap, skipBlanks_tree]
  have hread := hvalue htail hblanks
  have hcontains : seen.contains name = false := by simpa using hnew
  rw [field?] at hfield
  simp only [readMembers, nextKey_frame, bind, Except.bind, hname, hfield, hcontains,
    Bool.false_eq_true, if_false, readColon_behindKey, hread]

end Step

theorem readMembers_takes {seen : List Text} {acc out : σ} {members : Members}
    (h : r.Takes seen acc members out) {fuel : Nat} {first : Bool}
    (hfuel : (members.text first).length < fuel) (gap : Gap) (s : Text) :
    ∃ seen', r.readMembers fuel first seen acc (members.text first ++ (gap.text ++ '\x7d' :: s)) =
      .ok ((out, seen'), s) := by
  have hend := delimited_closeObject gap s
  induction h generalizing fuel first with
  | nil =>
      rename_i seen acc
      obtain ⟨fuel, rfl⟩ : ∃ n, fuel = n + 1 := ⟨fuel - 1, by omega⟩
      refine ⟨seen, ?_⟩
      simp only [Members.text, List.nil_append, readMembers, nextKey_gap, nextKey_close]
      rfl
  | @unknown seen acc out frame value rest name hkey hfield hrest ih =>
      obtain ⟨fuel, rfl⟩ : ∃ n, fuel = n + 1 := ⟨fuel - 1, by omega⟩
      have hlength := value.length_pos
      simp only [Members.text, List.length_append] at hfuel
      simp only [Members.text, List.append_assoc]
      rw [readMembers_unknown hkey hfield (delimited_gap frame.afterValue (rest.delimited hend)),
        readMembers_gap]
      exact ih (by omega)
  | @known seen acc acc' out frame value rest name f hkey hfield hnew hvalue hrest ih =>
      obtain ⟨fuel, rfl⟩ : ∃ n, fuel = n + 1 := ⟨fuel - 1, by omega⟩
      have hlength := value.length_pos
      simp only [Members.text, List.length_append] at hfuel
      simp only [Members.text, List.append_assoc]
      rw [readMembers_known hkey hfield hnew hvalue
        (delimited_gap frame.afterValue (rest.delimited hend)), readMembers_gap]
      exact ih (by omega)

/-- An object with nothing but blanks around it is read as its members say. -/
theorem parse_object {members : Members} {out : σ} (h : r.Takes [] r.initial members out)
    (hall : r.requiresAll = false) (lead gap trail : Gap) :
    r.parse (lead.text ++ ((Tree.object members gap).text ++ trail.text)) = .ok out := by
  have hblanks : skipBlanks (lead.text ++ ((Tree.object members gap).text ++ trail.text)) =
      '\x7b' :: (members.text true ++ (gap.text ++ '\x7d' :: trail.text)) := by
    rw [skipBlanks_gap, skipBlanks_tree]
    simp [Tree.text]
  have hfuel : (members.text true).length <
      (members.text true ++ (gap.text ++ '\x7d' :: trail.text)).length + 1 := by
    rw [List.length_append]
    omega
  obtain ⟨seen, hmembers⟩ := readMembers_takes h hfuel gap trail.text
  have hread : r.read (lead.text ++ ((Tree.object members gap).text ++ trail.text)) =
      .ok (out, trail.text) := by
    rw [read, hblanks]
    simp only [if_true, ofObject, hmembers, bind, Except.bind, hall]
    rfl
  have hfinish : finish trail.text = .ok () := by
    have htrail := skipBlanks_gap trail []
    rw [List.append_nil] at htrail
    rw [finish, htrail]
    rfl
  simp only [parse, hread, bind, Except.bind, hfinish]
  rfl

end Record

end ContentVisibility.Json
