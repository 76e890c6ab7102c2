import BptCore.Lib.Machine
import Mathlib.Logic.Function.Basic

/-!
# Retry loops on a shared value

Callers that share one value compute the next one from what they have seen, and exchange it for
that: the exchange fails when the value is no longer what the caller saw, and may fail without a
reason, and the caller then tries again with the value as it is.

* **`step`** — one load or exchange of one caller, with the exchange that succeeds reported.
* **`sequential`** — the calls one after another.
* **`values_eq_sequential`** — the calls, however their steps are interleaved, return what they
  would return one after another in the order of their exchanges.
-/

universe u v w

namespace RetryLoop

variable {κ : Type u} {α : Type v} {ν : Type w}

/-- A call under way: its argument, and what it has seen of the value. -/
structure Call (α : Type v) (ν : Type w) where
  arg : α
  seen : Option ν := none
  deriving DecidableEq, Repr

structure State (κ : Type u) (α : Type v) (ν : Type w) where
  shared : ν
  /-- A caller is in one call at a time. -/
  calls : κ → Option (Call α ν) := fun _ => none

inductive Event (κ : Type u) (α : Type v) where
  | begin (caller : κ) (arg : α)
  | load (caller : κ)
  /-- A `spurious` exchange fails whatever the value is. -/
  | exchange (caller : κ) (spurious : Bool)
  deriving DecidableEq, Repr

/-- A call that is over, with what it returns. -/
structure Done (κ : Type u) (α : Type v) (ν : Type w) where
  caller : κ
  arg : α
  value : ν
  deriving DecidableEq, Repr

variable [DecidableEq κ] [DecidableEq ν] (next : α → ν → ν)

/-- A step that the caller is not at does nothing. -/
def step (s : State κ α ν) : Event κ α → State κ α ν × List (Done κ α ν)
  | .begin c arg =>
    match s.calls c with
    | none => ({ s with calls := Function.update s.calls c (some ⟨arg, none⟩) }, [])
    | some _ => (s, [])
  | .load c =>
    match s.calls c with
    | some ⟨arg, none⟩ =>
      ({ s with calls := Function.update s.calls c (some ⟨arg, some s.shared⟩) }, [])
    | _ => (s, [])
  | .exchange c spurious =>
    match s.calls c with
    | some ⟨arg, some seen⟩ =>
      if seen = s.shared ∧ spurious = false then
        ({ shared := next arg seen, calls := Function.update s.calls c none },
          [⟨c, arg, next arg seen⟩])
      else
        -- a failed exchange loads the value anew
        ({ s with calls := Function.update s.calls c (some ⟨arg, some s.shared⟩) }, [])
    | _ => (s, [])

/-- What calls with these arguments return, one after another. -/
def sequential : ν → List α → List ν
  | _, [] => []
  | v, arg :: args => next arg v :: sequential (next arg v) args

variable {next}

/-- A step leaves the value alone, or moves it on for one call. -/
theorem step_cases (s : State κ α ν) (e : Event κ α) :
    ((step next s e).1.shared = s.shared ∧ (step next s e).2 = []) ∨
      ∃ c arg, (step next s e).1.shared = next arg s.shared ∧
        (step next s e).2 = [⟨c, arg, next arg s.shared⟩] := by
  cases e with
  | begin c arg =>
    left
    rw [step]
    cases s.calls c with
    | none => exact ⟨rfl, rfl⟩
    | some call => exact ⟨rfl, rfl⟩
  | load c =>
    left
    rw [step]
    obtain _ | ⟨arg, _ | seen⟩ := s.calls c
    · exact ⟨rfl, rfl⟩
    · exact ⟨rfl, rfl⟩
    · exact ⟨rfl, rfl⟩
  | exchange c spurious =>
    rw [step]
    obtain _ | ⟨arg, _ | seen⟩ := s.calls c
    · exact .inl ⟨rfl, rfl⟩
    · exact .inl ⟨rfl, rfl⟩
    · by_cases hsame : seen = s.shared ∧ spurious = false
      · right
        simp only [if_pos hsame]
        exact ⟨c, arg, by rw [hsame.1], by rw [hsame.1]⟩
      · left
        simp only [if_neg hsame]
        exact ⟨trivial, trivial⟩

/-- **Any interleaving is a sequence of calls**, in the order of the exchanges. -/
theorem values_eq_sequential (s : State κ α ν) (events : List (Event κ α)) :
    (Machine.outputs (step next) s events).map Done.value =
      sequential next s.shared ((Machine.outputs (step next) s events).map Done.arg) := by
  induction events generalizing s with
  | nil => rfl
  | cons e events ih =>
    rw [Machine.outputs]
    obtain ⟨hshared, hout⟩ | ⟨c, arg, hshared, hout⟩ := step_cases s e
    · rw [hout, List.nil_append, ih, hshared]
    · rw [hout, List.map_append, List.map_append, ih, hshared]
      rfl

/-- A relation between a call's argument and the value before it, and what it returns, is one of
every call that is over. -/
theorem forall_done {P : α → ν → Prop} (h : ∀ arg v, P arg (next arg v)) (s : State κ α ν)
    (events : List (Event κ α)) :
    ∀ d ∈ Machine.outputs (step next) s events, P d.arg d.value := by
  induction events generalizing s with
  | nil => exact fun d hd => absurd hd List.not_mem_nil
  | cons e events ih =>
    intro d hd
    rw [Machine.outputs, List.mem_append] at hd
    obtain hd | hd := hd
    · obtain ⟨-, hout⟩ | ⟨c, arg, -, hout⟩ := step_cases s e
      · rw [hout] at hd
        exact absurd hd List.not_mem_nil
      · rw [hout] at hd
        obtain rfl := List.mem_singleton.mp hd
        exact h arg s.shared
    · exact ih _ d hd

end RetryLoop
