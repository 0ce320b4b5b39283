import ContentVisibility.Trace.Basic

/-! # Traces of sequences

A traced function that is run over a list yields the list of its values and
records the events of its runs one after another.  What each part of a sequence
leaves unrecorded the whole leaves unrecorded (`Avoids`), and sequences of parts
that a host cannot tell apart cannot be told apart (`Alike`). -/
set_option autoImplicit false

namespace ContentVisibility.Traced

variable {α β : Type}

@[simp] theorem value_mapM (f : α → Traced β) (l : List α) :
    (l.mapM f).value = l.map fun a => (f a).value := by
  induction l with
  | nil => rfl
  | cons a l ih => rw [List.mapM_cons, value_bind, value_bind, ih, value_pure, List.map_cons]

@[simp] theorem events_mapM (f : α → Traced β) (l : List α) :
    (l.mapM f).events = l.flatMap fun a => (f a).events := by
  induction l with
  | nil => rfl
  | cons a l ih =>
      rw [List.mapM_cons, events_bind, events_bind, ih, events_pure, List.append_nil,
        List.flatMap_cons]

def Avoids (x : Traced α) (e : Event) : Prop := e ∉ x.events

variable {e : Event}

theorem avoids_pure (a : α) : (pure a : Traced α).Avoids e := List.not_mem_nil

theorem Avoids.bind {x : Traced α} {f : α → Traced β} (hx : x.Avoids e)
    (hf : ∀ a, (f a).Avoids e) : (x >>= f).Avoids e := by
  intro hmem
  rw [events_bind] at hmem
  rcases List.mem_append.mp hmem with hmem | hmem
  · exact hx hmem
  · exact hf x.value hmem

theorem avoids_log {entry : LogEntry} (h : e ≠ .logged entry) : (log entry).Avoids e := by
  intro hmem
  rw [events_log] at hmem
  exact h (List.mem_singleton.mp hmem)

theorem avoids_call {c : Callback} (h : e ≠ .called c) : (call c).Avoids e := by
  intro hmem
  rw [events_call] at hmem
  exact h (List.mem_singleton.mp hmem)

theorem avoids_foldlM {f : β → α → Traced β} (h : ∀ b a, (f b a).Avoids e) :
    ∀ (l : List α) (b : β), (l.foldlM f b).Avoids e := by
  intro l
  induction l with
  | nil => intro b; exact avoids_pure b
  | cons a l ih =>
      intro b
      rw [List.foldlM_cons]
      exact (h b a).bind ih

theorem calls_foldlM_of_silent {f : β → α → Traced β} (h : ∀ b a, (f b a).calls = []) :
    ∀ (l : List α) (b : β), (l.foldlM f b).calls = [] := by
  intro l
  induction l with
  | nil => intro b; exact calls_pure b
  | cons a l ih =>
      intro b
      rw [List.foldlM_cons, calls_bind, h, ih, List.append_nil]

/-- The same value, and the same calls of the host in the same order. -/
def Alike (x y : Traced α) : Prop := x.value = y.value ∧ x.calls = y.calls

theorem Alike.refl (x : Traced α) : x.Alike x := ⟨rfl, rfl⟩

theorem Alike.trans {x y z : Traced α} (hxy : x.Alike y) (hyz : y.Alike z) : x.Alike z :=
  ⟨hxy.1.trans hyz.1, hxy.2.trans hyz.2⟩

theorem Alike.bind {x y : Traced α} {f g : α → Traced β} (hxy : x.Alike y)
    (hfg : ∀ a, (f a).Alike (g a)) : (x >>= f).Alike (y >>= g) := by
  obtain ⟨hvalue, hcalls⟩ := hxy
  constructor
  · rw [value_bind, value_bind, hvalue, (hfg y.value).1]
  · rw [calls_bind, calls_bind, hvalue, hcalls, (hfg y.value).2]

end ContentVisibility.Traced
