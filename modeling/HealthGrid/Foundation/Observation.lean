import Mathlib.Logic.Function.Basic

/-!
# Results that an observation decides

Where `f` factors through an observation `p`, lists that look the same under
`p` are mapped to the same values by `f`.  Of a result that may fail, one
observation shows the values and another one the errors.
-/

namespace HealthGrid.Foundation

variable {α β γ : Type} {f g : α → γ} {p : α → β} {xs ys : List α}

theorem map_congr_of_map_eq (h : xs.map p = ys.map p)
    (hfg : ∀ x ∈ xs, ∀ y ∈ ys, p x = p y → f x = g y) :
    xs.map f = ys.map g := by
  induction xs generalizing ys with
  | nil =>
      rw [List.map_nil, eq_comm, List.map_eq_nil_iff] at h
      rw [h]
      rfl
  | cons x xs ih =>
      cases ys with
      | nil => cases h
      | cons y ys =>
          rw [List.map_cons, List.map_cons, List.cons.injEq] at h
          rw [List.map_cons, List.map_cons,
            hfg x List.mem_cons_self y List.mem_cons_self h.1,
            ih h.2 fun x hx y hy =>
              hfg x (List.mem_cons_of_mem _ hx) y (List.mem_cons_of_mem _ hy)]

theorem map_eq_of_factors (hf : f.FactorsThrough p)
    (h : xs.map p = ys.map p) : xs.map f = ys.map f :=
  map_congr_of_map_eq h fun _ _ _ _ hxy => hf hxy

theorem mem_of_map_eq (h : xs.map p = ys.map p) {x : α} (hmem : x ∈ xs) :
    ∃ y ∈ ys, p y = p x :=
  List.mem_map.mp (h ▸ List.mem_map_of_mem hmem)

theorem flatMap_ite_eq_filter (q : α → Bool) (xs : List α) :
    (xs.flatMap fun x => if q x then [x] else []) = xs.filter q := by
  induction xs with
  | nil => rfl
  | cons x xs ih =>
      rw [List.flatMap_cons, ih, List.filter_cons]
      cases q x <;> rfl

/-! ## Results that may fail -/

/-- A result as far as `p` shows it, an error as far as `q` does. -/
def seen {ε ε' : Type} (q : ε → ε') (p : α → β) : Except ε α → Except ε' β
  | .ok a => .ok (p a)
  | .error e => .error (q e)

theorem seen_id {ε : Type} (x : Except ε α) : seen id id x = x := by
  cases x <;> rfl

theorem seen_comp {ε ε' ζ : Type} {q : ε → ε'} {x y : Except ε α} (k : β → ζ)
    (h : seen q p x = seen q p y) :
    seen q (fun a => k (p a)) x = seen q (fun a => k (p a)) y := by
  have hcomp : ∀ x : Except ε α,
      seen q (fun a => k (p a)) x = seen id k (seen q p x) := by
    intro x
    cases x <;> rfl
  rw [hcomp, h, ← hcomp]

section Seen

variable {ε ε' δ ζ : Type} {q : ε → ε'} {r : δ → ζ}

/-- The bind rule: what follows must only show what `p` shows. -/
theorem seen_bind {x y : Except ε α} {f g : α → Except ε δ}
    (hxy : seen q p x = seen q p y)
    (hfg : ∀ a b, x = .ok a → y = .ok b → p a = p b →
      seen q r (f a) = seen q r (g b)) :
    seen q r (x >>= f) = seen q r (y >>= g) := by
  cases x with
  | error e =>
      cases y with
      | error e' => exact congrArg Except.error (Except.error.inj hxy)
      | ok b => cases hxy
  | ok a =>
      cases y with
      | error e' => cases hxy
      | ok b => exact hfg a b rfl rfl (Except.ok.inj hxy)

theorem seen_mapM {f g : α → Except ε δ} (h : xs.map p = ys.map p)
    (hfg : ∀ x ∈ xs, ∀ y ∈ ys, p x = p y → seen q r (f x) = seen q r (g y)) :
    seen q (List.map r) (xs.mapM f) = seen q (List.map r) (ys.mapM g) := by
  induction xs generalizing ys with
  | nil =>
      rw [List.map_nil, eq_comm, List.map_eq_nil_iff] at h
      rw [h]
      rfl
  | cons x xs ih =>
      cases ys with
      | nil => cases h
      | cons y ys =>
          rw [List.map_cons, List.map_cons, List.cons.injEq] at h
          have hrest := ih h.2 fun x hx y hy =>
            hfg x (List.mem_cons_of_mem _ hx) y (List.mem_cons_of_mem _ hy)
          rw [List.mapM_cons, List.mapM_cons]
          refine seen_bind (hfg x List.mem_cons_self y List.mem_cons_self h.1)
            fun z z' _ _ hz => seen_bind hrest fun zs zs' _ _ hzs => ?_
          change Except.ok _ = Except.ok _
          rw [List.map_cons, List.map_cons, hz, hzs]

end Seen

end HealthGrid.Foundation
