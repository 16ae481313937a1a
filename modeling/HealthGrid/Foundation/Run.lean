import Mathlib.Data.List.Forall2
import Mathlib.Data.List.Induction

/-!
# Runs of a transition relation

A relation `step s input t` says that taking `input` in state `s` can lead to
`t`.  A run takes a list of inputs in order.  Interleavings of several parties
are runs whose inputs name the party that moves.
-/

namespace HealthGrid.Foundation

variable {σ ι : Type}

inductive Run (step : σ → ι → σ → Prop) : σ → List ι → σ → Prop
  | refl (s : σ) : Run step s [] s
  | snoc {s t u : σ} {inputs : List ι} {input : ι} :
      Run step s inputs t → step t input u → Run step s (inputs ++ [input]) u

namespace Run

variable {step step' : σ → ι → σ → Prop} {s t u : σ} {inputs inputs' : List ι}

theorem single {input : ι} (h : step s input t) : Run step s [input] t :=
  .snoc (.refl s) h

theorem trans (first : Run step s inputs t) (second : Run step t inputs' u) :
    Run step s (inputs ++ inputs') u := by
  induction second with
  | refl => simpa using first
  | snoc _ hstep ih =>
      rw [← List.append_assoc]
      exact .snoc ih hstep

theorem mono (himp : ∀ s input t, step s input t → step' s input t)
    (run : Run step s inputs t) : Run step' s inputs t := by
  induction run with
  | refl => exact .refl _
  | snoc _ hstep ih => exact .snoc ih (himp _ _ _ hstep)

theorem invariant (inv : σ → Prop)
    (hstep : ∀ s input t, inv s → step s input t → inv t)
    (run : Run step s inputs t) (hs : inv s) : inv t := by
  induction run with
  | refl => exact hs
  | snoc _ hlast ih => exact hstep _ _ _ ih hlast

theorem append_inv (run : Run step s (inputs ++ inputs') u) :
    ∃ t, Run step s inputs t ∧ Run step t inputs' u := by
  induction inputs' using List.reverseRecOn generalizing u with
  | nil => exact ⟨u, by simpa using run, .refl u⟩
  | append_singleton front last ih =>
      rw [← List.append_assoc] at run
      generalize hall : (inputs ++ front) ++ [last] = all at run
      cases run with
      | refl => simp at hall
      | snoc hfront hlast =>
          obtain ⟨rfl, hinput⟩ := List.append_inj' hall rfl
          cases hinput
          obtain ⟨t, hleft, hright⟩ := ih hfront
          exact ⟨t, hleft, .snoc hright hlast⟩

theorem project {τ : Type} (part : τ → ι → τ → Prop) (view : σ → τ)
    (mine : ι → Bool)
    (hmine : ∀ s input t, step s input t → mine input = true →
      part (view s) input (view t))
    (hother : ∀ s input t, step s input t → mine input = false →
      view t = view s)
    (run : Run step s inputs t) :
    Run part (view s) (inputs.filter mine) (view t) := by
  induction run with
  | refl => exact .refl _
  | @snoc t u inputs input _ hstep ih =>
      rw [List.filter_append]
      cases hinput : mine input with
      | true =>
          rw [List.filter_cons_of_pos hinput, List.filter_nil]
          exact .snoc ih (hmine _ _ _ hstep hinput)
      | false =>
          rw [List.filter_cons_of_neg (by simp [hinput]), List.filter_nil,
            List.append_nil, hother _ _ _ hstep hinput]
          exact ih

/--
A run seen through a view in which every step is a step of the other relation
or shows nothing.
-/
theorem stutter {τ κ : Type} {shown : τ → κ → τ → Prop} (view : σ → τ)
    {makes : ι → κ → Prop}
    (hview : ∀ s input t, step s input t → view t = view s ∨
      ∃ input', makes input input' ∧ shown (view s) input' (view t))
    (run : Run step s inputs t) :
    ∃ taken inputs', taken.Sublist inputs ∧
      List.Forall₂ makes taken inputs' ∧
      Run shown (view s) inputs' (view t) := by
  induction run with
  | refl => exact ⟨[], [], List.Sublist.refl _, .nil, .refl _⟩
  | @snoc t u inputs input _ hstep ih =>
      obtain ⟨taken, inputs', hsub, hmakes, hshown⟩ := ih
      rcases hview _ _ _ hstep with hsame | ⟨input', hinput, hlast⟩
      · rw [hsame]
        exact ⟨taken, inputs', hsub.trans (List.sublist_append_left ..), hmakes,
          hshown⟩
      · exact ⟨taken ++ [input], inputs' ++ [input'],
          hsub.append (List.Sublist.refl _),
          List.rel_append hmakes (.cons hinput .nil), .snoc hshown hlast⟩

theorem nil_inv (run : Run step s [] t) : s = t := by
  generalize hall : [] = all at run
  cases run with
  | refl => rfl
  | snoc => simp at hall

theorem single_inv {input : ι} (run : Run step s [input] t) :
    step s input t := by
  rw [← List.nil_append [input]] at run
  generalize hall : [] ++ [input] = all at run
  cases run with
  | refl => simp at hall
  | snoc hfront hstep =>
      obtain ⟨rfl, hinput⟩ := List.append_inj' hall rfl
      cases hinput
      rw [hfront.nil_inv]
      exact hstep

end Run

def Guarded (guard : σ → ι → Prop) (step : σ → ι → σ → Prop) (s : σ)
    (input : ι) (t : σ) : Prop :=
  guard s input ∧ step s input t

theorem Run.guarded {step : σ → ι → σ → Prop} {guard : σ → ι → Prop}
    {s t : σ} {inputs : List ι} (hguard : ∀ s, ∀ input ∈ inputs, guard s input)
    (run : Run step s inputs t) : Run (Guarded guard step) s inputs t := by
  induction run with
  | refl => exact .refl _
  | snoc _ hstep ih =>
      exact .snoc (ih fun s input hmem => hguard s input (by simp [hmem]))
        ⟨hguard _ _ (by simp), hstep⟩

def Enabled (step : σ → ι → Option σ) (s : σ) (input : ι) (t : σ) : Prop :=
  step s input = some t

def execute (step : σ → ι → Option σ) (s : σ) (inputs : List ι) : Option σ :=
  inputs.foldlM step s

theorem run_of_execute {step : σ → ι → Option σ} {s t : σ} {inputs : List ι}
    (h : execute step s inputs = some t) : Run (Enabled step) s inputs t := by
  induction inputs using List.reverseRecOn generalizing t with
  | nil =>
      simp only [execute, List.foldlM_nil, Option.pure_def,
        Option.some.injEq] at h
      subst h
      exact .refl s
  | append_singleton front last ih =>
      simp only [execute, List.foldlM_append, List.foldlM_cons,
        List.foldlM_nil, bind_pure] at h
      obtain ⟨middle, hfront, hlast⟩ := Option.bind_eq_some_iff.mp h
      exact .snoc (ih hfront) hlast

theorem execute_of_run {step : σ → ι → Option σ} {s t : σ} {inputs : List ι}
    (run : Run (Enabled step) s inputs t) : execute step s inputs = some t := by
  induction run with
  | refl => rfl
  | snoc _ hstep ih =>
      unfold execute at ih ⊢
      rw [List.foldlM_append, ih]
      simpa [Enabled] using hstep

theorem Run.unique {step : σ → ι → Option σ} {s t u : σ} {inputs : List ι}
    (run : Run (Enabled step) s inputs t) (run' : Run (Enabled step) s inputs u) :
    t = u :=
  Option.some.inj ((execute_of_run run).symm.trans (execute_of_run run'))

theorem run_of_execute_guarded {guard : σ → ι → Prop}
    [∀ s input, Decidable (guard s input)] {step : σ → ι → Option σ}
    {s t : σ} {inputs : List ι}
    (h : execute (fun s input => if guard s input then step s input else none)
      s inputs = some t) :
    Run (Guarded guard (Enabled step)) s inputs t := by
  refine (run_of_execute h).mono ?_
  intro u input v huv
  simp only [Enabled, Option.ite_none_right_eq_some] at huv
  exact huv

/-- In every state the inputs lead through, the last one included. -/
def Always (step : σ → ι → Option σ) (good : σ → Prop) (s : σ)
    (inputs : List ι) : Prop :=
  ∀ front rest t, inputs = front ++ rest → Run (Enabled step) s front t → good t

/--
A guard that keeps a property, and without which a step loses it, holds at
every step exactly when the property holds throughout.
-/
theorem always_iff_guarded {guard : σ → ι → Prop} {step : σ → ι → Option σ}
    {good : σ → Prop} {s t : σ} {inputs : List ι}
    (hkept : ∀ s input t, good s → guard s input → step s input = some t →
      good t)
    (hlost : ∀ s input t, good s → ¬ guard s input → step s input = some t →
      ¬ good t)
    (hs : good s) (run : Run (Enabled step) s inputs t) :
    Always step good s inputs ↔
      Run (Guarded guard (Enabled step)) s inputs t := by
  constructor
  · intro halways
    induction run with
    | refl => exact .refl _
    | @snoc u v inputs input hfront hstep ih =>
        refine .snoc (ih ?_) ⟨?_, hstep⟩
        · intro front rest w heq
          refine halways front (rest ++ [input]) w ?_
          rw [heq, List.append_assoc]
        · by_contra hguard
          exact hlost u input v (halways inputs [input] u rfl hfront) hguard
            hstep (halways (inputs ++ [input]) [] v (by simp)
              (.snoc hfront hstep))
  · intro hguarded front rest u heq hfront
    subst heq
    obtain ⟨middle, hmiddle, -⟩ := hguarded.append_inv
    rw [hfront.unique (hmiddle.mono fun _ _ _ h => h.2)]
    refine hmiddle.invariant good ?_ hs
    exact fun s input t hgood hstep => hkept s input t hgood hstep.1 hstep.2

/-! ## Traces -/

/-- Some element of the trace met `p`, and every later one met `q`. -/
def Since {α : Type} (p q : α → Prop) (trace : List α) : Prop :=
  ∃ before element later, trace = before ++ element :: later ∧ p element ∧
    ∀ other ∈ later, q other

theorem not_since_nil {α : Type} {p q : α → Prop} : ¬ Since p q [] := by
  rintro ⟨before, element, later, htrace, -⟩
  simp at htrace

theorem since_snoc {α : Type} {p q : α → Prop} {trace : List α} {last : α} :
    Since p q (trace ++ [last]) ↔ p last ∨ (Since p q trace ∧ q last) := by
  constructor
  · rintro ⟨before, element, later, htrace, hp, hq⟩
    cases later using List.reverseRecOn with
    | nil =>
        obtain ⟨-, hlast⟩ := List.append_inj' htrace rfl
        cases hlast
        exact .inl hp
    | append_singleton later final =>
        rw [← List.cons_append, ← List.append_assoc] at htrace
        obtain ⟨hfront, hlast⟩ := List.append_inj' htrace rfl
        cases hlast
        refine .inr ⟨⟨before, element, later, hfront, hp, ?_⟩, ?_⟩
        · intro other hmem
          exact hq other (List.mem_append_left _ hmem)
        · exact hq last (List.mem_append_right _ (List.mem_singleton_self _))
  · rintro (hp | ⟨⟨before, element, later, rfl, hp, hq⟩, hlast⟩)
    · exact ⟨trace, last, [], rfl, hp, by simp⟩
    · refine ⟨before, element, later ++ [last], by simp, hp, ?_⟩
      intro other hmem
      rw [List.mem_append, List.mem_singleton] at hmem
      rcases hmem with hmem | rfl
      · exact hq other hmem
      · exact hlast

def EachAfter {α : Type} (p : List α → α → Prop) (trace : List α) : Prop :=
  ∀ before element later, trace = before ++ element :: later → p before element

theorem eachAfter_nil {α : Type} {p : List α → α → Prop} : EachAfter p [] := by
  intro before element later htrace
  simp at htrace

theorem EachAfter.snoc {α : Type} {p : List α → α → Prop} {trace : List α}
    {last : α} (h : EachAfter p trace) (hlast : p trace last) :
    EachAfter p (trace ++ [last]) := by
  intro before element later htrace
  cases later using List.reverseRecOn with
  | nil =>
      obtain ⟨rfl, helement⟩ := List.append_inj' htrace rfl
      cases helement
      exact hlast
  | append_singleton later final =>
      rw [← List.cons_append, ← List.append_assoc] at htrace
      obtain ⟨hfront, -⟩ := List.append_inj' htrace rfl
      exact h before element later hfront

theorem EachAfter.imp {α : Type} {p q : List α → α → Prop} {trace : List α}
    (h : EachAfter p trace) (himp : ∀ before element, p before element →
      q before element) : EachAfter q trace :=
  fun before element later htrace => himp _ _ (h before element later htrace)

theorem find?_snoc {α : Type} (p : α → Bool) (trace : List α) (last : α) :
    (trace ++ [last]).find? p =
      (trace.find? p).or (if p last then some last else none) := by
  rw [List.find?_append, List.find?_singleton]

def latest {α β : Type} (value? : α → Option β) (trace : List α) : Option β :=
  trace.reverse.findSome? value?

theorem latest_snoc {α β : Type} (value? : α → Option β) (trace : List α)
    (last : α) :
    latest value? (trace ++ [last]) =
      (value? last).or (latest value? trace) := by
  unfold latest
  rw [List.reverse_append, List.reverse_singleton, List.singleton_append,
    List.findSome?_cons]
  cases value? last <;> rfl

end HealthGrid.Foundation
