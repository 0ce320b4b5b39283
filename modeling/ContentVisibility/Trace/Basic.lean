import ContentVisibility.Trace.Event

/-! # Traced values

A traced value is a value with the events of its evaluation, in order.  The
events of a sequence are those of its first part followed by those of the
second, so the calls and the log entries of a sequence concatenate too. -/
set_option autoImplicit false

namespace ContentVisibility

structure Traced (α : Type) where
  value : α
  events : List Event := []

namespace Traced

variable {α β : Type}

theorem ext {x y : Traced α} (hv : x.value = y.value) (he : x.events = y.events) : x = y := by
  obtain ⟨a, es⟩ := x
  obtain ⟨b, fs⟩ := y
  simp only at hv he
  rw [hv, he]

instance : Monad Traced where
  pure a := ⟨a, []⟩
  bind x f := ⟨(f x.value).value, x.events ++ (f x.value).events⟩

@[simp] theorem value_pure (a : α) : (pure a : Traced α).value = a := rfl

@[simp] theorem events_pure (a : α) : (pure a : Traced α).events = [] := rfl

@[simp] theorem value_bind (x : Traced α) (f : α → Traced β) :
    (x >>= f).value = (f x.value).value := rfl

@[simp] theorem events_bind (x : Traced α) (f : α → Traced β) :
    (x >>= f).events = x.events ++ (f x.value).events := rfl

instance : LawfulMonad Traced := LawfulMonad.mk' Traced
  (fun _ => ext rfl (List.append_nil _))
  (fun _ _ => ext rfl (List.nil_append _))
  (fun _ _ _ => ext rfl (List.append_assoc _ _ _))

@[simp] theorem value_map (f : α → β) (x : Traced α) : (f <$> x).value = f x.value := rfl

@[simp] theorem events_map (f : α → β) (x : Traced α) : (f <$> x).events = x.events :=
  List.append_nil _

/-! ## Recording -/

def call (c : Callback) : Traced Unit := ⟨(), [.called c]⟩

def log (e : LogEntry) : Traced Unit := ⟨(), [.logged e]⟩

@[simp] theorem events_call (c : Callback) : (call c).events = [.called c] := rfl

@[simp] theorem events_log (e : LogEntry) : (log e).events = [.logged e] := rfl

/-- The second part is evaluated only if the first is true. -/
def both (x y : Traced Bool) : Traced Bool := do
  if ← x then y else pure false

@[simp] theorem value_both (x y : Traced Bool) : (both x y).value = (x.value && y.value) := by
  cases h : x.value <;> simp [both, h]

/-! ## Calls and log entries -/

def calls (x : Traced α) : List Callback := x.events.filterMap Event.callback?

def entries (x : Traced α) : List LogEntry := x.events.filterMap Event.entry?

@[simp] theorem calls_pure (a : α) : (pure a : Traced α).calls = [] := rfl

@[simp] theorem calls_bind (x : Traced α) (f : α → Traced β) :
    (x >>= f).calls = x.calls ++ (f x.value).calls :=
  List.filterMap_append

@[simp] theorem calls_call (c : Callback) : (call c).calls = [c] := rfl

@[simp] theorem calls_log (e : LogEntry) : (log e).calls = [] := rfl

theorem calls_both (x y : Traced Bool) :
    (both x y).calls = x.calls ++ if x.value then y.calls else [] := by
  cases h : x.value <;> simp [both, h]

end Traced

end ContentVisibility
