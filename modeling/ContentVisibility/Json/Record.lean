import ContentVisibility.Json.Value

/-! # Reading records

A record is given as an object whose keys are its fields, in any order, or as a
list of its fields in their own order.  Keys that are no fields are passed over
with their values; no field may come twice.  Fields may be left out, at the end
when a list is given, unless the record requires all of them. -/
set_option autoImplicit false

namespace ContentVisibility.Json

/-! ## Values of a wanted kind -/

/-- The fault of a value that is not of the wanted kind, which may be a fault in
the value itself. -/
def mismatch (wanted : Text) (s : Text) : Error :=
  let found (f : Found) : Error := .invalidType f wanted
  let after (word : Text) (rest : Text) (f : Found) : Error :=
    match readWord word rest with
    | .error e => e
    | .ok _ => found f
  match s with
  | [] => .endInValue
  | c :: rest =>
      if c = 'n' then after "ull".toList rest .null
      else if c = 't' then after "rue".toList rest (.boolean true)
      else if c = 'f' then after "alse".toList rest (.boolean false)
      else if c = '-' ∨ Numeral.isDigit c then
        match readNumber (c :: rest) with
        | .error e => e
        | .ok (n, _) => found n.found
      else if c = '"' then
        match readChars .full rest with
        | .error e => e
        | .ok (t, _) => found (.text t)
      else if c = '[' then found .list
      else if c = '\x7b' then found .object
      else .expectedValue

def readText : Reader Text := fun s =>
  match skipBlanks s with
  | [] => .error .endInValue
  | c :: rest =>
      if c = '"' then readChars .full rest else .error (mismatch "a string".toList (c :: rest))

def readBool : Reader Bool := fun s =>
  match skipBlanks s with
  | [] => .error .endInValue
  | c :: rest =>
      if c = 't' then (readWord "rue".toList rest).map (true, ·)
      else if c = 'f' then (readWord "alse".toList rest).map (false, ·)
      else .error (mismatch "a boolean".toList (c :: rest))

/-- Elements up to the end of a list; every element takes a character at least. -/
def readElements {α : Type} (read : Reader α) : Nat → Bool → Reader (List α)
  | 0, _, _ => .error .endInList
  | fuel + 1, first, s => do
      match ← nextElement .full first s with
      | .close rest => return ([], rest)
      | .item rest =>
          let (x, rest) ← read rest
          let (xs, rest) ← readElements read fuel false rest
          return (x :: xs, rest)

def readList {α : Type} (read : Reader α) : Reader (List α) := fun s =>
  match skipBlanks s with
  | [] => .error .endInValue
  | c :: rest =>
      if c = '[' then readElements read (rest.length + 1) true rest
      else .error (mismatch "a sequence".toList (c :: rest))

/-! ## Records -/

/-- A field of a record under construction. -/
structure Field (σ : Type) where
  name : Text
  read : σ → Reader σ

/-- A field that holds a value of its own. -/
def Field.of {σ α : Type} (name : String) (read : Reader α) (store : σ → α → σ) : Field σ where
  name := name.toList
  read acc s := (read s).map fun (x, rest) => (store acc x, rest)

structure Record (σ : Type) where
  title : Text
  fields : List (Field σ)
  /-- The record with every field left out. -/
  initial : σ
  requiresAll : Bool := false

namespace Record

variable {σ : Type} (r : Record σ)

/-- The members up to the end of an object, with the names of the fields among
them; every member takes a character at least. -/
def readMembers : Nat → Bool → List Text → σ → Reader (σ × List Text)
  | 0, _, _, _, _ => .error .endInObject
  | fuel + 1, first, seen, acc, s => do
      match ← nextKey .full first s with
      | .close rest => return ((acc, seen), rest)
      | .item rest =>
          let (name, rest) ← readChars .full rest
          match r.fields.find? fun f => f.name == name with
          | none =>
              let rest ← readColon rest
              let rest ← skipValue rest
              readMembers fuel false seen acc rest
          | some f =>
              if seen.contains name then .error (.duplicateField name)
              else
                let rest ← readColon rest
                let (acc, rest) ← f.read acc rest
                readMembers fuel false (name :: seen) acc rest

/-- The fields from the front of a list, with the number of those read. -/
def readItems : List (Field σ) → Bool → Nat → σ → Reader (σ × Nat)
  | [], _, count, acc, s => do
      let rest ← closeList s
      return ((acc, count), rest)
  | f :: fields, first, count, acc, s => do
      match ← nextElement .full first s with
      | .close rest => return ((acc, count), rest)
      | .item rest =>
          let (acc, rest) ← f.read acc rest
          readItems fields false (count + 1) acc rest

def ofObject (rest : Text) : Except Error (σ × Text) := do
  let ((acc, seen), rest) ← r.readMembers (rest.length + 1) true [] r.initial rest
  match r.requiresAll, r.fields.find? fun f => !seen.contains f.name with
  | true, some f => .error (.missingField f.name)
  | _, _ => return (acc, rest)

/-- The kind of value wanted of a list that gives the record. -/
def listTitle : Text :=
  r.title ++ " with ".toList ++ Decimal.natText r.fields.length ++ " elements".toList

def ofList (rest : Text) : Except Error (σ × Text) := do
  let ((acc, count), rest) ← readItems r.fields true 0 r.initial rest
  if r.requiresAll ∧ count < r.fields.length then .error (.invalidLength count r.listTitle)
  else return (acc, rest)

def read (s : Text) : Except Error (σ × Text) :=
  match skipBlanks s with
  | [] => .error .endInValue
  | c :: rest =>
      if c = '\x7b' then r.ofObject rest
      else if c = '[' then r.ofList rest
      else .error (mismatch r.title (c :: rest))

/-- The record that the whole text gives. -/
def parse (s : Text) : Except Error σ := do
  let (x, rest) ← r.read s
  finish rest
  return x

end Record

end ContentVisibility.Json
