import Aviary.Fault

/-!
# Pictures

A picture is the list of drawing calls made for it, and the fault that cut it short if there is one.  Pictures follow
one another: after a fault nothing more is drawn.

Main statements: a picture is drawn to its end if and only if each of its parts is (`fault_andThen`, `fault_ofExcept`,
`fault_each`).
-/

namespace Aviary

/-- Drawing calls in order, and what stopped them. -/
structure Picture (α : Type) where
  calls : List α
  fault : Option Fault

namespace Picture

variable {α β : Type}

/-- The picture without a call. -/
def done : Picture α := ⟨[], none⟩

def emit (calls : List α) : Picture α := ⟨calls, none⟩

def stop (fault : Fault) : Picture α := ⟨[], some fault⟩

/-- `p` and then, unless a fault stopped it, `q`. -/
def andThen (p q : Picture α) : Picture α :=
  match p.fault with
  | some fault => ⟨p.calls, some fault⟩
  | none => ⟨p.calls ++ q.calls, q.fault⟩

/-- The picture made from a value that may not exist. -/
def ofExcept (value : Except Fault β) (f : β → Picture α) : Picture α :=
  match value with
  | .error fault => stop fault
  | .ok b => f b

/-- The pictures of the elements of a list, one after the other. -/
def each (xs : List β) (f : β → Picture α) : Picture α := xs.foldr (fun x p => (f x).andThen p) done

theorem fault_andThen {p q : Picture α} : (p.andThen q).fault = none ↔ p.fault = none ∧ q.fault = none := by
  unfold andThen
  cases h : p.fault <;> simp

theorem fault_emit_andThen {calls : List α} {p : Picture α} : ((emit calls).andThen p).fault = p.fault := rfl

theorem fault_ofExcept {value : Except Fault β} {f : β → Picture α} :
    (ofExcept value f).fault = none ↔ ∃ b, value = .ok b ∧ (f b).fault = none := by
  cases value <;> simp [ofExcept, stop]

theorem fault_each {xs : List β} {f : β → Picture α} :
    (each xs f).fault = none ↔ ∀ x ∈ xs, (f x).fault = none := by
  induction xs with
  | nil => simp [each, done]
  | cons x xs ih =>
    rw [List.forall_mem_cons, ← ih]
    exact fault_andThen

theorem calls_andThen {p : Picture α} (q : Picture α) (h : p.fault = none) :
    (p.andThen q).calls = p.calls ++ q.calls := by
  unfold andThen
  rw [h]

/-! What all calls of the parts are, all calls of a picture are. -/

theorem forall_andThen {P : α → Prop} {p q : Picture α} (hp : ∀ c ∈ p.calls, P c) (hq : ∀ c ∈ q.calls, P c) :
    ∀ c ∈ (p.andThen q).calls, P c := by
  unfold andThen
  split
  · exact hp
  · exact List.forall_mem_append.mpr ⟨hp, hq⟩

theorem forall_ofExcept {P : α → Prop} {value : Except Fault β} {f : β → Picture α}
    (h : ∀ b, ∀ c ∈ (f b).calls, P c) : ∀ c ∈ (ofExcept value f).calls, P c := by
  cases value with
  | error fault => exact List.forall_mem_nil P
  | ok b => exact h b

theorem forall_each {P : α → Prop} {f : β → Picture α} (h : ∀ x, ∀ c ∈ (f x).calls, P c) (xs : List β) :
    ∀ c ∈ (each xs f).calls, P c := by
  induction xs with
  | nil => exact List.forall_mem_nil P
  | cons x xs ih => exact forall_andThen (h x) ih

/-- The pictures of a list are drawn to the end if each of them is. -/
theorem each_eq_emit {xs : List β} {f : β → Picture α} {g : β → List α} (h : ∀ x ∈ xs, f x = emit (g x)) :
    each xs f = emit (xs.flatMap g) := by
  induction xs with
  | nil => rfl
  | cons x xs ih =>
    obtain ⟨hx, hxs⟩ := List.forall_mem_cons.1 h
    show (f x).andThen (each xs f) = _
    rw [hx, ih hxs]
    rfl

/-- The pictures of a list are drawn up to the first that is cut short. -/
theorem each_eq_of_fault {before : List β} (after : List β) {x : β} {f : β → Picture α} {g : β → List α} {fault : Fault}
    (hb : ∀ y ∈ before, f y = emit (g y)) (hx : (f x).fault = some fault) :
    each (before ++ x :: after) f = ⟨before.flatMap g ++ (f x).calls, some fault⟩ := by
  induction before with
  | nil =>
    show (f x).andThen (each after f) = _
    simp [andThen, hx]
  | cons y before ih =>
    obtain ⟨hy, hbefore⟩ := List.forall_mem_cons.1 hb
    show (f y).andThen (each (before ++ x :: after) f) = _
    rw [hy, ih hbefore, List.flatMap_cons, List.append_assoc]
    rfl

end Picture

end Aviary
