import Mathlib.Algebra.GroupWithZero.Nat
import Mathlib.Data.List.Forall2

/-!
# Runs of a deterministic machine with outputs

A program that takes one event at a time is a function `step : σ → ε → σ × List ο` from a
state and an event to the next state and what the event made it emit. This module owns the
run-level vocabulary over such a function, independently of any program:

* **`exec`**, **`outputs`** — the state and the emissions after a list of events.
* **`AllStates`** — a predicate of every state the run goes through, its first included.
* **`AlongRun`** — a predicate of every step of the run: the state it starts from and its event.
* **`AllStates.of_inductive`** — the induction rule: what one step keeps, a run keeps.
* **`allStates_iff_alongRun_of_assumption`**, **`allStates_iff_alongRun`** — the exactness rule:
  when a step keeps the property precisely under a condition on the state before it and on its
  event, a run has the property in every state precisely when the condition holds at every step.
* **`alongRun_iff_of_kept`**, **`alongRun_iff_of_assumption`** — the same for a property of the
  steps themselves.
* **`agrees_exec`**, **`explained_of_agrees`** — the history rule: emissions that the emissions
  before them explain.
* **`outputs_eq_of_related`**, **`AlongRun.of_related`** — two runs side by side: related states and
  events lead to the same emissions.
* **`Switches`** — emissions that report every switch of a flag.
* **`total`**, **`total_balance`** — a quantity summed over the steps, and the conservation rule:
  what every step conserves, a run conserves.
-/

namespace Machine

universe u v w

variable {σ : Type u} {ε : Type v} {ο : Type w} (step : σ → ε → σ × List ο)

/-- The state after the events `es`, from `s`. -/
def exec : σ → List ε → σ
  | s, [] => s
  | s, e :: es => exec (step s e).1 es

/-- Everything the events `es` made the machine emit, from `s`, in order. -/
def outputs : σ → List ε → List ο
  | _, [] => []
  | s, e :: es => (step s e).2 ++ outputs (step s e).1 es

/-- `P` holds at every step: of the state before it and of the event it takes. -/
def AlongRun (P : σ → ε → Prop) : σ → List ε → Prop
  | _, [] => True
  | s, e :: es => P s e ∧ AlongRun P (step s e).1 es

/-- `P` holds of every state of the run, the starting one included. -/
def AllStates (P : σ → Prop) : σ → List ε → Prop
  | s, [] => P s
  | s, e :: es => P s ∧ AllStates P (step s e).1 es

instance AlongRun.decidable (P : σ → ε → Prop) [∀ s e, Decidable (P s e)] :
    ∀ (s : σ) (es : List ε), Decidable (AlongRun step P s es)
  | _, [] => isTrue trivial
  | s, e :: es =>
    have := AlongRun.decidable P (step s e).1 es
    inferInstanceAs (Decidable (_ ∧ _))

instance AllStates.decidable (P : σ → Prop) [∀ s, Decidable (P s)] :
    ∀ (s : σ) (es : List ε), Decidable (AllStates step P s es)
  | s, [] => inferInstanceAs (Decidable (P s))
  | s, e :: es =>
    have := AllStates.decidable P (step s e).1 es
    inferInstanceAs (Decidable (_ ∧ _))

/-! ## Composing runs -/

section Composition

variable {step}

@[simp] theorem exec_cons (s : σ) (e : ε) (es : List ε) :
    exec step s (e :: es) = exec step (step s e).1 es := rfl

theorem exec_append (s : σ) (es fs : List ε) :
    exec step s (es ++ fs) = exec step (exec step s es) fs := by
  induction es generalizing s with
  | nil => rfl
  | cons e es ih => exact ih (step s e).1

theorem outputs_append (s : σ) (es fs : List ε) :
    outputs step s (es ++ fs) = outputs step s es ++ outputs step (exec step s es) fs := by
  induction es generalizing s with
  | nil => rfl
  | cons e es ih => rw [List.cons_append, outputs, ih, outputs, List.append_assoc]; rfl

theorem alongRun_append {P : σ → ε → Prop} {s : σ} {es fs : List ε} :
    AlongRun step P s (es ++ fs) ↔ AlongRun step P s es ∧ AlongRun step P (exec step s es) fs := by
  induction es generalizing s with
  | nil => exact (iff_of_eq (true_and _)).symm
  | cons e es ih =>
    show P s e ∧ AlongRun step P (step s e).1 (es ++ fs) ↔ _
    rw [ih, ← and_assoc]
    exact Iff.rfl

/-- A predicate of every emission of a run is one of every step's emissions. -/
theorem forall_outputs_iff_alongRun {Q : ο → Prop} {s : σ} {es : List ε} :
    (∀ o ∈ outputs step s es, Q o) ↔ AlongRun step (fun s e => ∀ o ∈ (step s e).2, Q o) s es := by
  induction es generalizing s with
  | nil => simp [outputs, AlongRun]
  | cons e es ih =>
    simp only [outputs, AlongRun, List.mem_append, or_imp, forall_and, ih]

theorem AllStates.start {P : σ → Prop} {s : σ} {es : List ε} (h : AllStates step P s es) :
    P s := by
  cases es with
  | nil => exact h
  | cons e es => exact h.1

theorem AllStates.final {P : σ → Prop} {s : σ} {es : List ε} (h : AllStates step P s es) :
    P (exec step s es) := by
  induction es generalizing s with
  | nil => exact h
  | cons e es ih => exact ih h.2

theorem AllStates.imp {P Q : σ → Prop} (hPQ : ∀ s, P s → Q s) {s : σ} {es : List ε}
    (h : AllStates step P s es) : AllStates step Q s es := by
  induction es generalizing s with
  | nil => exact hPQ s h
  | cons e es ih => exact ⟨hPQ s h.1, ih h.2⟩

end Composition

/-! ## The induction rule -/

section Induction

variable {step}

/-- **The invariant rule.** A property that one step keeps holds in every state of a run that
starts in it. -/
theorem AllStates.of_inductive {I : σ → Prop} (hstep : ∀ s e, I s → I (step s e).1)
    {s : σ} (hs : I s) (es : List ε) : AllStates step I s es := by
  induction es generalizing s with
  | nil => exact hs
  | cons e es ih => exact ⟨hs, ih (hstep s e hs)⟩

/-- The invariant rule for a run whose steps meet an assumption. -/
theorem AllStates.of_assumption {I : σ → Prop} {D : σ → ε → Prop}
    (hstep : ∀ s e, I s → D s e → I (step s e).1) {s : σ} (hs : I s) {es : List ε}
    (hD : AlongRun step D s es) : AllStates step I s es := by
  induction es generalizing s with
  | nil => exact hs
  | cons e es ih => exact ⟨hs, ih (hstep s e hs hD.1) hD.2⟩

/-- An invariant holds in the final state. -/
theorem exec_of_inductive {I : σ → Prop} (hstep : ∀ s e, I s → I (step s e).1)
    {s : σ} (hs : I s) (es : List ε) : I (exec step s es) :=
  (AllStates.of_inductive hstep hs es).final

/-- A step condition that the invariant implies holds along every run. -/
theorem AlongRun.of_inductive {J : σ → Prop} {G : σ → ε → Prop}
    (hJ : ∀ s e, J s → J (step s e).1) (hG : ∀ s e, J s → G s e)
    {s : σ} (hs : J s) (es : List ε) : AlongRun step G s es := by
  induction es generalizing s with
  | nil => trivial
  | cons e es ih => exact ⟨hG s e hs, ih (hJ s e hs)⟩

/-- The same for a run whose steps meet an assumption. -/
theorem AlongRun.of_assumption {I : σ → Prop} {D G : σ → ε → Prop}
    (hI : ∀ s e, I s → D s e → I (step s e).1) (hG : ∀ s e, I s → D s e → G s e)
    {s : σ} (hs : I s) {es : List ε} (hD : AlongRun step D s es) : AlongRun step G s es := by
  induction es generalizing s with
  | nil => trivial
  | cons e es ih => exact ⟨hG s e hs hD.1, ih (hI s e hs hD.1) hD.2⟩

/-- What the states of a run have in common, with an invariant of its steps, gives a step
condition along it. -/
theorem AllStates.alongRun {J P : σ → Prop} {G : σ → ε → Prop} (hJ : ∀ s e, J s → J (step s e).1)
    (hG : ∀ s e, J s → P s → G s e) {s : σ} (hs : J s) {es : List ε} (h : AllStates step P s es) :
    AlongRun step G s es := by
  induction es generalizing s with
  | nil => trivial
  | cons e es ih => exact ⟨hG s e hs h.1, ih (hJ s e hs) h.2⟩

/-- A step condition that the next state gives away, and that keeps the invariant, holds along a run
whose states all have the property. -/
theorem AllStates.alongRun_of_kept {J P : σ → Prop} {G : σ → ε → Prop}
    (hG : ∀ s e, J s → P (step s e).1 → G s e) (hJ : ∀ s e, J s → G s e → J (step s e).1)
    {s : σ} (hs : J s) {es : List ε} (h : AllStates step P s es) : AlongRun step G s es := by
  induction es generalizing s with
  | nil => trivial
  | cons e es ih =>
    have hone := hG s e hs h.2.start
    exact ⟨hone, ih (hJ s e hs hone) h.2⟩

theorem AlongRun.and {G H : σ → ε → Prop} {s : σ} {es : List ε} (hG : AlongRun step G s es)
    (hH : AlongRun step H s es) : AlongRun step (fun s e => G s e ∧ H s e) s es := by
  induction es generalizing s with
  | nil => trivial
  | cons e es ih => exact ⟨⟨hG.1, hH.1⟩, ih hG.2 hH.2⟩

/-- A step condition that every event of the run meets, whatever the state, holds along it. -/
theorem AlongRun.of_forall_mem {G : σ → ε → Prop} {es : List ε} (h : ∀ e ∈ es, ∀ s, G s e)
    (s : σ) : AlongRun step G s es := by
  induction es generalizing s with
  | nil => trivial
  | cons e es ih =>
    have hrest : ∀ e' ∈ es, ∀ s, G s e' := fun e' he' => h e' (List.mem_cons_of_mem e he')
    exact ⟨h e List.mem_cons_self s, ih hrest (step s e).1⟩

/-- **The exactness rule.** Let the steps of a run meet the assumption `D`, and let `J` be an
invariant of such steps. If a step from a state with `P` leads to a state with `P` exactly when
`G` holds, then the run has `P` in every state exactly when `G` holds along it. -/
theorem allStates_iff_alongRun_of_assumption {J P : σ → Prop} {D G : σ → ε → Prop}
    (hJ : ∀ s e, J s → D s e → J (step s e).1)
    (hstep : ∀ s e, J s → D s e → P s → (P (step s e).1 ↔ G s e))
    {s : σ} (hJs : J s) (hPs : P s) {es : List ε} (hD : AlongRun step D s es) :
    AllStates step P s es ↔ AlongRun step G s es := by
  induction es generalizing s with
  | nil => exact iff_of_true hPs trivial
  | cons e es ih =>
    -- the step decides its own condition, the rest of the run the others
    have hone := hstep s e hJs hD.1 hPs
    constructor
    · intro h
      exact ⟨hone.mp h.2.start, (ih (hJ s e hJs hD.1) h.2.start hD.2).mp h.2⟩
    · intro h
      exact ⟨hPs, (ih (hJ s e hJs hD.1) (hone.mpr h.1) hD.2).mpr h.2⟩

/-- The exactness rule for arbitrary runs. -/
theorem allStates_iff_alongRun {J P : σ → Prop} {G : σ → ε → Prop}
    (hJ : ∀ s e, J s → J (step s e).1)
    (hstep : ∀ s e, J s → P s → (P (step s e).1 ↔ G s e))
    {s : σ} (hJs : J s) (hPs : P s) (es : List ε) :
    AllStates step P s es ↔ AlongRun step G s es :=
  allStates_iff_alongRun_of_assumption (fun s e h _ => hJ s e h) (fun s e h _ => hstep s e h)
    hJs hPs (AlongRun.of_inductive hJ (fun _ _ _ => trivial) hJs es)

/-- A family of step conditions holds along a run when every one of them does. -/
theorem forall_alongRun_iff {ι : Sort*} {P : ι → σ → ε → Prop} {s : σ} {es : List ε} :
    (∀ i, AlongRun step (P i) s es) ↔ AlongRun step (fun s e => ∀ i, P i s e) s es := by
  induction es generalizing s with
  | nil => exact iff_of_true (fun _ => trivial) trivial
  | cons e es ih =>
    show (∀ i, P i s e ∧ AlongRun step (P i) (step s e).1 es) ↔ _
    rw [forall_and, ih]
    exact Iff.rfl

/-- **The exactness rule for steps.** If the good steps keep `J`, and a step from a state with `J`
is good exactly under the condition, then a run has only good steps exactly when the condition
holds along it. -/
theorem alongRun_iff_of_kept {J : σ → Prop} {G H : σ → ε → Prop}
    (hJ : ∀ s e, J s → G s e → J (step s e).1) (hGH : ∀ s e, J s → (G s e ↔ H s e))
    {s : σ} (hs : J s) (es : List ε) :
    AlongRun step G s es ↔ AlongRun step H s es := by
  induction es generalizing s with
  | nil => exact Iff.rfl
  | cons e es ih =>
    constructor
    · rintro ⟨hgood, hrest⟩
      exact ⟨(hGH s e hs).mp hgood, (ih (hJ s e hs hgood)).mp hrest⟩
    · rintro ⟨hcond, hrest⟩
      have hgood := (hGH s e hs).mpr hcond
      exact ⟨hgood, (ih (hJ s e hs hgood)).mpr hrest⟩

/-- The same for runs whose steps meet an assumption, which keeps `J`. -/
theorem alongRun_iff_of_assumption {J : σ → Prop} {D G H : σ → ε → Prop}
    (hJ : ∀ s e, J s → D s e → J (step s e).1) (hGH : ∀ s e, J s → D s e → (G s e ↔ H s e))
    {s : σ} (hs : J s) {es : List ε} (hD : AlongRun step D s es) :
    AlongRun step G s es ↔ AlongRun step H s es := by
  induction es generalizing s with
  | nil => exact Iff.rfl
  | cons e es ih =>
    exact and_congr (hGH s e hs hD.1) (ih (hJ s e hs hD.1) hD.2)

/-- Two step conditions that agree in the states of an invariant hold along the same runs. -/
theorem alongRun_congr {J : σ → Prop} {G H : σ → ε → Prop}
    (hJ : ∀ s e, J s → J (step s e).1) (hGH : ∀ s e, J s → (G s e ↔ H s e))
    {s : σ} (hs : J s) (es : List ε) :
    AlongRun step G s es ↔ AlongRun step H s es :=
  alongRun_iff_of_kept (fun s e h _ => hJ s e h) hGH hs es

/-- Two step conditions that agree on the events of a run, in any state, hold along it alike. -/
theorem alongRun_congr_of_mem {G H : σ → ε → Prop} {es : List ε}
    (hGH : ∀ e ∈ es, ∀ s, G s e ↔ H s e) (s : σ) : AlongRun step G s es ↔ AlongRun step H s es := by
  induction es generalizing s with
  | nil => exact Iff.rfl
  | cons e es ih =>
    have hrest := ih (fun e' he' => hGH e' (List.mem_cons_of_mem e he')) (step s e).1
    exact and_congr (hGH e List.mem_cons_self s) hrest

end Induction

/-! ## Emissions as a history -/

section History

variable {step} {A : List ο → σ → Prop}

/-- A state that agrees with what was emitted so far, where steps keep the agreement, does so after
every run. -/
theorem agrees_exec (hstep : ∀ log s e, A log s → A (log ++ (step s e).2) (step s e).1)
    {log : List ο} {s : σ} (hs : A log s) (es : List ε) :
    A (log ++ outputs step s es) (exec step s es) := by
  induction es generalizing log s with
  | nil => exact (List.append_nil log).symm ▸ hs
  | cons e es ih =>
    have hrest := ih (hstep log s e hs)
    rw [List.append_assoc] at hrest
    exact hrest

/-- **The history rule.** If every emission of a step is explained by the emissions before it, in a
state that agrees with these, then every emission of a run is. -/
theorem explained_of_agrees {X : List ο → ο → Prop}
    (hstep : ∀ log s e, A log s → A (log ++ (step s e).2) (step s e).1)
    (hX : ∀ log s e, A log s → ∀ pre o post, (step s e).2 = pre ++ o :: post → X (log ++ pre) o)
    {log : List ο} {s : σ} (hs : A log s) {es : List ε} {pre post : List ο} {o : ο}
    (h : outputs step s es = pre ++ o :: post) : X (log ++ pre) o := by
  induction es generalizing log s pre with
  | nil => exact absurd h (by simp [outputs])
  | cons e es ih =>
    rw [outputs, List.append_eq_append_iff] at h
    obtain ⟨mid, hpre, hrest⟩ | ⟨mid, hfirst, hrest⟩ := h
    · rw [hpre, ← List.append_assoc]
      exact ih (hstep log s e hs) hrest
    · cases mid with
      | nil =>
        have hpre : (step s e).2 = pre := hfirst.trans (List.append_nil pre)
        have hlater : X (log ++ (step s e).2 ++ []) o := ih (hstep log s e hs) hrest.symm
        rwa [List.append_nil, hpre] at hlater
      | cons o' mid =>
        obtain ⟨rfl, -⟩ := List.cons.inj hrest
        exact hX log s e hs pre o mid hfirst

end History

/-! ## Two runs side by side -/

section Related

variable {step} {R : σ → σ → Prop} {E : ε → ε → Prop} {D : σ → ε → Prop}

/-- **The rule of two runs.** Let a step under `D` and a related step from a related state emit the
same and lead to related states. Then related runs emit the same. -/
theorem outputs_eq_of_related
    (hstep : ∀ s s' e e', R s s' → E e e' → D s e →
      (step s' e').2 = (step s e).2 ∧ R (step s e).1 (step s' e').1)
    {s s' : σ} (hs : R s s') {es es' : List ε} (hes : List.Forall₂ E es es')
    (hD : AlongRun step D s es) : outputs step s' es' = outputs step s es := by
  induction hes generalizing s s' with
  | nil => rfl
  | cons he _ ih =>
    obtain ⟨hsame, hnext⟩ := hstep _ _ _ _ hs he hD.1
    rw [outputs, outputs, hsame, ih hnext hD.2]

/-- A step condition that goes over to related states and events goes over to related runs. -/
theorem AlongRun.of_related {G : σ → ε → Prop}
    (hstep : ∀ s s' e e', R s s' → E e e' → D s e → R (step s e).1 (step s' e').1)
    (hG : ∀ s s' e e', R s s' → E e e' → D s e → G s' e')
    {s s' : σ} (hs : R s s') {es es' : List ε} (hes : List.Forall₂ E es es')
    (hD : AlongRun step D s es) : AlongRun step G s' es' := by
  induction hes generalizing s s' with
  | nil => trivial
  | cons he _ ih => exact ⟨hG _ _ _ _ hs he hD.1, ih (hstep _ _ _ _ hs he hD.1) hD.2⟩

end Related

/-! ## Reported switches -/

/-- The reports `rs` take a flag from `a` to `b`: each gives the flag's new value, so consecutive
ones differ. -/
def Switches : Bool → List Bool → Bool → Prop
  | a, [], b => a = b
  | a, r :: rs, b => r = !a ∧ Switches r rs b

theorem Switches.append {a b c : Bool} {rs ss : List Bool} (h : Switches a rs b)
    (h' : Switches b ss c) : Switches a (rs ++ ss) c := by
  induction rs generalizing a with
  | nil =>
    obtain rfl : a = b := h
    exact h'
  | cons r rs ih => exact ⟨h.1, ih h.2⟩

/-! ## Conservation -/

section Conservation

/-- What the steps of a run amount to. -/
def total (f : σ → ε → Nat) : σ → List ε → Nat
  | _, [] => 0
  | s, e :: es => f s e + total f (step s e).1 es

variable {step}

/-- A run amounts to nothing when every step does. -/
theorem total_eq_zero_iff {f : σ → ε → Nat} {s : σ} {es : List ε} :
    total step f s es = 0 ↔ AlongRun step (fun s e => f s e = 0) s es := by
  induction es generalizing s with
  | nil => exact iff_of_true rfl trivial
  | cons e es ih =>
    show f s e + total step f (step s e).1 es = 0 ↔ _
    rw [Nat.add_eq_zero_iff, ih]
    exact Iff.rfl

theorem total_add (f g : σ → ε → Nat) (s : σ) (es : List ε) :
    total step (fun s e => f s e + g s e) s es = total step f s es + total step g s es := by
  induction es generalizing s with
  | nil => rfl
  | cons e es ih =>
    show f s e + g s e + total step (fun s e => f s e + g s e) (step s e).1 es =
      f s e + total step f (step s e).1 es + (g s e + total step g (step s e).1 es)
    rw [ih]
    omega

/-- What the emissions of a run amount to, step by step. -/
theorem sum_outputs {w : ο → Nat} {s : σ} {es : List ε} :
    ((outputs step s es).map w).sum =
      total step (fun s e => ((step s e).2.map w).sum) s es := by
  induction es generalizing s with
  | nil => rfl
  | cons e es ih =>
    rw [outputs, List.map_append, List.sum_append_nat, ih]
    rfl

/-- **The conservation rule.** If every step takes in `gain` and gives out `loss`, with what is
held in between accounted for by `held`, then so does the run. -/
theorem total_balance (held : σ → Nat) (gain loss : σ → ε → Nat)
    (hstep : ∀ s e, held s + gain s e = held (step s e).1 + loss s e) (s : σ) (es : List ε) :
    held s + total step gain s es = held (exec step s es) + total step loss s es := by
  induction es generalizing s with
  | nil => rfl
  | cons e es ih =>
    have hone := hstep s e
    have hrest := ih (step s e).1
    show held s + (gain s e + total step gain (step s e).1 es) =
      held (exec step (step s e).1 es) + (loss s e + total step loss (step s e).1 es)
    omega

end Conservation

end Machine
