import Mathlib.Data.List.Induction
import Mathlib.Tactic.Common

/-! # Runs of a deterministic machine

A machine is a step function that consumes one operation and answers it. A run
keeps the answered operations in order, so that a property may speak about what
happened earlier in the same run and not only about the state reached.
-/

namespace VisionForge.Lib.Run

universe u v w

variable {σ : Type u} {ι : Type v} {ο : Type w}

def exec (step : σ → ι → σ × ο) (s : σ) (ops : List ι) : σ :=
  ops.foldl (fun s op => (step s op).1) s

/-- The operations of a run with the answer each of them received. -/
def trace (step : σ → ι → σ × ο) (s : σ) : List ι → List (ι × ο)
  | [] => []
  | op :: ops => (op, (step s op).2) :: trace step (step s op).1 ops

variable (step : σ → ι → σ × ο)

@[simp] theorem exec_nil (s : σ) : exec step s [] = s := rfl

@[simp] theorem exec_cons (s : σ) (op : ι) (ops : List ι) :
    exec step s (op :: ops) = exec step (step s op).1 ops := rfl

theorem exec_append (s : σ) (first snd : List ι) :
    exec step s (first ++ snd) = exec step (exec step s first) snd := by
  simp only [exec, List.foldl_append]

@[simp] theorem trace_nil (s : σ) : trace step s [] = [] := rfl

@[simp] theorem trace_cons (s : σ) (op : ι) (ops : List ι) :
    trace step s (op :: ops) = (op, (step s op).2) :: trace step (step s op).1 ops := rfl

theorem trace_append (s : σ) (first second : List ι) :
    trace step s (first ++ second) =
      trace step s first ++ trace step (exec step s first) second := by
  induction first generalizing s with
  | nil => rfl
  | cons op ops ih => simp only [List.cons_append, trace_cons, exec_cons, ih]

theorem map_fst_trace (s : σ) (ops : List ι) : (trace step s ops).map Prod.fst = ops := by
  induction ops generalizing s with
  | nil => rfl
  | cons op ops ih => simp only [trace_cons, List.map_cons, ih]

/-- What holds of the empty history and is kept by one answered operation holds
    of the history and the state of every run. -/
theorem history_invariant {Inv : List (ι × ο) → σ → Prop} {s₀ : σ} (init : Inv [] s₀)
    (keeps : ∀ h s op, Inv h s → Inv (h ++ [(op, (step s op).2)]) (step s op).1)
    (ops : List ι) : Inv (trace step s₀ ops) (exec step s₀ ops) := by
  induction ops using List.reverseRecOn with
  | nil => exact init
  | append_singleton ops op ih =>
    rw [trace_append, exec_append]
    exact keeps _ _ op ih

theorem exec_invariant {P : σ → Prop} {s₀ : σ} (init : P s₀)
    (keeps : ∀ s op, P s → P (step s op).1) (ops : List ι) : P (exec step s₀ ops) := by
  induction ops using List.reverseRecOn with
  | nil => exact init
  | append_singleton ops op ih =>
    rw [exec_append]
    exact keeps _ op ih

/-- Splitting a run at one of its answered operations recovers the state in which
    that operation was answered and the operations before it. -/
theorem trace_split {s : σ} {ops : List ι} {pre after : List (ι × ο)} {op : ι} {ans : ο}
    (h : trace step s ops = pre ++ (op, ans) :: after) :
    ∃ old, pre = trace step s old ∧ ans = (step (exec step s old) op).2 := by
  induction ops generalizing s pre with
  | nil => simp at h
  | cons o ops ih =>
    cases pre with
    | nil =>
      obtain ⟨⟨rfl, rfl⟩, -⟩ := h
      exact ⟨[], rfl, rfl⟩
    | cons first rest =>
      simp only [trace_cons, List.cons_append, List.cons.injEq] at h
      obtain ⟨old, hb, ha⟩ := ih h.2
      exact ⟨o :: old, by simp only [trace_cons, ← h.1, ← hb], ha⟩

/-- An answered operation of a run was answered after the operations before it. -/
theorem mem_trace {s : σ} {ops : List ι} {op : ι} {answer : ο}
    (h : (op, answer) ∈ trace step s ops) :
    ∃ old later, ops = old ++ op :: later ∧ answer = (step (exec step s old) op).2 := by
  induction ops generalizing s with
  | nil => cases h
  | cons first ops ih =>
    cases List.mem_cons.mp h with
    | inl same =>
      cases same
      exact ⟨[], ops, rfl, rfl⟩
    | inr rest =>
      obtain ⟨old, later, split, ans⟩ := ih rest
      exact ⟨first :: old, later, by rw [split, List.cons_append], ans⟩

/-- The machine with an observer, who notes what each step does. -/
def observed {γ : Type*} (step : σ → ι → σ × ο) (note : γ → σ → ι → σ × ο → γ) (state : σ × γ)
    (op : ι) : (σ × γ) × ο :=
  let result := step state.1 op
  ((result.1, note state.2 state.1 op result), result.2)

theorem exec_observed {γ : Type*} (note : γ → σ → ι → σ × ο → γ) (s : σ) (seen : γ)
    (ops : List ι) : (exec (observed step note) (s, seen) ops).1 = exec step s ops := by
  induction ops generalizing s seen with
  | nil => rfl
  | cons op ops ih => exact ih _ _

/-- Two machines that stay related and answer alike, step by step, do so over every run. -/
theorem simulation {τ : Type*} {ο' : Type*} {step : σ → ι → σ × ο} {step' : τ → ι → τ × ο'}
    {R : σ → τ → Prop} (answer : ο → ο')
    (keeps : ∀ s t op, R s t → R (step s op).1 (step' t op).1 ∧
      answer (step s op).2 = (step' t op).2) {s : σ} {t : τ} (init : R s t) (ops : List ι) :
    R (exec step s ops) (exec step' t ops) ∧
      (trace step s ops).map (fun ans => (ans.1, answer ans.2)) = trace step' t ops := by
  induction ops generalizing s t with
  | nil => exact ⟨init, rfl⟩
  | cons op ops ih =>
    obtain ⟨related, same⟩ := keeps s t op init
    obtain ⟨final, answers⟩ := ih related
    simp only [exec_cons, trace_cons, List.map_cons, same, answers]
    exact ⟨final, trivial⟩

theorem filterMap_concat {α : Type*} {β : Type*} (f : α → Option β) (hist : List α) (last : α) :
    (hist ++ [last]).filterMap f = hist.filterMap f ++ (f last).toList := by
  cases h : f last <;> simp [h]

end VisionForge.Lib.Run
