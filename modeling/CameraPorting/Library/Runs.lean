import Mathlib.Data.List.Basic
import Mathlib.Data.List.Infix

/-!
Runs of a deterministic machine whose commands come from an environment. A
command may be constrained by a contract of the caller; the rules below carry a
one-step fact over a run of any length, including the exact form used when a
program keeps a property only under a condition on its steps.
-/

namespace CameraPorting.Library.Runs

variable {σ α : Type*} {step : σ → α → σ}

/-- The state in which a run ends. -/
def exec (step : σ → α → σ) (s : σ) (cmds : List α) : σ :=
  cmds.foldl step s

/-- `P` holds at every step of a run, of the state before the step and the
command issued in it. -/
def Along (step : σ → α → σ) (P : σ → α → Prop) : σ → List α → Prop
  | _, [] => True
  | s, a :: cmds => P s a ∧ Along step P (step s a) cmds

/-- `G` holds in every state a run goes through, the first and the last one
included. -/
def Always (step : σ → α → σ) (G : σ → Prop) (s : σ) (cmds : List α) : Prop :=
  ∀ pre, pre <+: cmds → G (exec step s pre)

instance Along.decidable {P : σ → α → Prop} [∀ s a, Decidable (P s a)] :
    ∀ (s : σ) (cmds : List α), Decidable (Along step P s cmds)
  | _, [] => .isTrue trivial
  | s, a :: cmds =>
      have := Along.decidable (P := P) (step s a) cmds
      inferInstanceAs (Decidable (P s a ∧ Along step P (step s a) cmds))

@[simp] theorem exec_nil (s : σ) : exec step s [] = s := rfl

@[simp] theorem exec_cons (s : σ) (a : α) (cmds : List α) :
    exec step s (a :: cmds) = exec step (step s a) cmds := rfl

theorem exec_concat (s : σ) (pre : List α) (a : α) :
    exec step s (pre ++ [a]) = step (exec step s pre) a :=
  List.foldl_concat ..

@[simp] theorem along_nil {P : σ → α → Prop} (s : σ) :
    Along step P s [] ↔ True := Iff.rfl

@[simp] theorem along_cons {P : σ → α → Prop} (s : σ) (a : α)
    (cmds : List α) :
    Along step P s (a :: cmds) ↔ P s a ∧ Along step P (step s a) cmds :=
  Iff.rfl

theorem along_of_forall {P : σ → α → Prop} (h : ∀ s a, P s a) (s : σ) (cmds : List α) :
    Along step P s cmds := by
  induction cmds generalizing s with
  | nil => trivial
  | cons a cmds ih => exact ⟨h s a, ih (step s a)⟩

theorem along_append {P : σ → α → Prop} {s : σ} {pre post : List α} :
    Along step P s (pre ++ post) ↔ Along step P s pre ∧ Along step P (exec step s pre) post := by
  induction pre generalizing s with
  | nil => simp
  | cons a pre ih => rw [List.cons_append, along_cons, along_cons, exec_cons, ih, and_assoc]

theorem Along.imp {P Q : σ → α → Prop} (h : ∀ s a, P s a → Q s a) {s : σ}
    {cmds : List α} (hP : Along step P s cmds) : Along step Q s cmds := by
  induction cmds generalizing s with
  | nil => trivial
  | cons a cmds ih => exact ⟨h s a hP.1, ih hP.2⟩

/-- The invariant rule: what one allowed step preserves, every allowed run
preserves. -/
theorem exec_of_along {I : σ → Prop} {P : σ → α → Prop}
    (hstep : ∀ s a, I s → P s a → I (step s a)) {s : σ} {cmds : List α}
    (hs : I s) (hP : Along step P s cmds) : I (exec step s cmds) := by
  induction cmds generalizing s with
  | nil => exact hs
  | cons a cmds ih => exact ih (hstep s a hs hP.1) hP.2

/-- What the steps of a run emit, in order. -/
def trace {β : Type*} (step : σ → α → σ) (emit : σ → α → List β) : σ → List α → List β
  | _, [] => []
  | s, a :: cmds => emit s a ++ trace step emit (step s a) cmds

/-- A view of the state that every step moves by what it emits is moved by a run by
all that the run emits. -/
theorem exec_of_trace {β γ : Type*} {emit : σ → α → List β} {view : σ → γ}
    {move : γ → β → γ} {I : σ → Prop}
    (hstep : ∀ s a, I s → view (step s a) = (emit s a).foldl move (view s) ∧ I (step s a))
    {s : σ} (hs : I s) (cmds : List α) :
    view (exec step s cmds) = (trace step emit s cmds).foldl move (view s) := by
  induction cmds generalizing s with
  | nil => rfl
  | cons a cmds ih =>
      rw [exec_cons, ih (hstep s a hs).2, (hstep s a hs).1, trace, List.foldl_append]

theorem forall_mem_trace {β : Type*} {emit : σ → α → List β} {I : σ → Prop} {P : β → Prop}
    (hstep : ∀ s a, I s → (∀ b ∈ emit s a, P b) ∧ I (step s a)) {s : σ} (hs : I s)
    (cmds : List α) : ∀ b ∈ trace step emit s cmds, P b := by
  induction cmds generalizing s with
  | nil => exact fun b hb => absurd hb List.not_mem_nil
  | cons a cmds ih =>
      intro b hb
      rcases List.mem_append.mp hb with hb | hb
      · exact (hstep s a hs).1 b hb
      · exact ih (hstep s a hs).2 b hb

/-- Forward simulation: where related states emit the same and stay related under the
commands that are allowed, so do they over a run. -/
theorem trace_related {τ β : Type*} {step' : τ → α → τ} {emit : σ → α → List β}
    {emit' : τ → α → List β} {R : σ → τ → Prop} {P : σ → α → Prop}
    (hstep : ∀ s t a, R s t → P s a → emit s a = emit' t a ∧ R (step s a) (step' t a))
    {s : σ} {t : τ} {cmds : List α} (h : R s t) (hP : Along step P s cmds) :
    trace step emit s cmds = trace step' emit' t cmds ∧
      R (exec step s cmds) (exec step' t cmds) := by
  induction cmds generalizing s t with
  | nil => exact ⟨rfl, h⟩
  | cons a cmds ih =>
      obtain ⟨hsame, hnext⟩ := hstep s t a h hP.1
      obtain ⟨htrace, hlast⟩ := ih hnext hP.2
      exact ⟨congrArg₂ List.append hsame htrace, hlast⟩

theorem trace_append {β : Type*} {emit : σ → α → List β} (s : σ) (pre post : List α) :
    trace step emit s (pre ++ post) =
      trace step emit s pre ++ trace step emit (exec step s pre) post := by
  induction pre generalizing s with
  | nil => rfl
  | cons a pre ih => rw [List.cons_append, trace, trace, exec_cons, ih, List.append_assoc]

theorem trace_map {β γ : Type*} {emit : σ → α → List β} (f : β → γ) (s : σ) (cmds : List α) :
    trace step (fun s a => (emit s a).map f) s cmds = (trace step emit s cmds).map f := by
  induction cmds generalizing s with
  | nil => rfl
  | cons a cmds ih => rw [trace, trace, ih, List.map_append]

/-- Refinement by a function: where the view of every step is a run of the machine viewed,
the view of a run is one, too. -/
theorem exec_view {τ β : Type*} {step' : τ → β → τ} {view : σ → τ} {op : σ → α → List β}
    (hview : ∀ s a, view (step s a) = exec step' (view s) (op s a)) (s : σ) (cmds : List α) :
    view (exec step s cmds) = exec step' (view s) (trace step op s cmds) := by
  induction cmds generalizing s with
  | nil => rfl
  | cons a cmds ih => rw [exec_cons, ih, hview, trace, exec, exec, exec, List.foldl_append]

theorem trace_view {τ β γ : Type*} {step' : τ → β → τ} {view : σ → τ} {op : σ → α → List β}
    {emit : σ → α → List γ} {emit' : τ → β → List γ}
    (hview : ∀ s a, view (step s a) = exec step' (view s) (op s a))
    (hemit : ∀ s a, emit s a = trace step' emit' (view s) (op s a)) (s : σ) (cmds : List α) :
    trace step emit s cmds = trace step' emit' (view s) (trace step op s cmds) := by
  induction cmds generalizing s with
  | nil => rfl
  | cons a cmds ih => rw [trace, trace, trace_append, ih, hview, hemit]

theorem along_view {τ β : Type*} {step' : τ → β → τ} {view : σ → τ} {op : σ → α → List β}
    {P : σ → α → Prop} {P' : τ → β → Prop}
    (hview : ∀ s a, view (step s a) = exec step' (view s) (op s a))
    (hP : ∀ s a, P s a → Along step' P' (view s) (op s a)) {s : σ} {cmds : List α}
    (h : Along step P s cmds) : Along step' P' (view s) (trace step op s cmds) := by
  induction cmds generalizing s with
  | nil => trivial
  | cons a cmds ih =>
      have hrest := ih h.2
      rw [hview] at hrest
      exact along_append.mpr ⟨hP s a h.1, hrest⟩

theorem along_of_invariant {I : σ → Prop} {P Q : σ → α → Prop}
    (hstep : ∀ s a, I s → P s a → Q s a ∧ I (step s a)) {s : σ}
    {cmds : List α} (hs : I s) (hP : Along step P s cmds) :
    Along step Q s cmds := by
  induction cmds generalizing s with
  | nil => trivial
  | cons a cmds ih =>
      obtain ⟨hQ, hnext⟩ := hstep s a hs hP.1
      exact ⟨hQ, ih hnext hP.2⟩

@[simp] theorem always_nil {G : σ → Prop} (s : σ) :
    Always step G s [] ↔ G s := by
  constructor
  · intro h
    exact h [] (List.prefix_refl [])
  · intro h pre hpre
    rw [List.prefix_nil.mp hpre]
    exact h

theorem always_cons {G : σ → Prop} (s : σ) (a : α) (cmds : List α) :
    Always step G s (a :: cmds) ↔ G s ∧ Always step G (step s a) cmds := by
  constructor
  · intro h
    refine ⟨h [] (List.nil_prefix), fun pre hpre => ?_⟩
    exact h (a :: pre) (List.cons_prefix_cons.mpr ⟨rfl, hpre⟩)
  · rintro ⟨hs, hrest⟩ pre hpre
    rcases List.prefix_cons_iff.mp hpre with rfl | ⟨tail, rfl, htail⟩
    · exact hs
    · exact hrest tail htail

theorem always_iff_along {G : σ → Prop} (s : σ) (cmds : List α) :
    Always step G s cmds ↔ G s ∧ Along step (fun s a => G (step s a)) s cmds := by
  induction cmds generalizing s with
  | nil => simp
  | cons a cmds ih => rw [always_cons, ih (step s a), along_cons]

theorem Always.last {G : σ → Prop} {s : σ} {cmds : List α}
    (h : Always step G s cmds) : G (exec step s cmds) :=
  h cmds (List.prefix_refl cmds)

theorem Always.imp {G H : σ → Prop} (h : ∀ s, G s → H s) {s : σ}
    {cmds : List α} (hG : Always step G s cmds) : Always step H s cmds :=
  fun pre hpre => h _ (hG pre hpre)

theorem always_of_along {I : σ → Prop} {P : σ → α → Prop}
    (hstep : ∀ s a, I s → P s a → I (step s a)) {s : σ} {cmds : List α}
    (hs : I s) (hP : Along step P s cmds) : Always step I s cmds := by
  induction cmds generalizing s with
  | nil => simpa using hs
  | cons a cmds ih =>
      exact (always_cons s a cmds).mpr ⟨hs, ih (hstep s a hs hP.1) hP.2⟩

/-- Exact conditions over runs. Under the callers' contract `E`, if a step that
meets `C` has the property `Q` and keeps the invariant, and a step that does not
meet `C` lacks `Q`, then a run has `Q` at all its steps exactly when all its
steps meet `C`. -/
theorem along_iff_along {I : σ → Prop} {E C Q : σ → α → Prop}
    (hkeep : ∀ s a, I s → E s a → C s a → Q s a ∧ I (step s a))
    (hbreak : ∀ s a, I s → E s a → Q s a → C s a) {s : σ} {cmds : List α}
    (hs : I s) (hE : Along step E s cmds) :
    Along step Q s cmds ↔ Along step C s cmds := by
  induction cmds generalizing s with
  | nil => simp
  | cons a cmds ih =>
      simp only [along_cons]
      constructor
      · rintro ⟨hQ, hrest⟩
        have hC : C s a := hbreak s a hs hE.1 hQ
        exact ⟨hC, (ih (hkeep s a hs hE.1 hC).2 hE.2).mp hrest⟩
      · rintro ⟨hC, hrest⟩
        obtain ⟨hQ, hnext⟩ := hkeep s a hs hE.1 hC
        exact ⟨hQ, (ih hnext hE.2).mpr hrest⟩

theorem always_iff_along_of_exact {I G : σ → Prop} {E C : σ → α → Prop}
    (hI : ∀ s, I s → G s)
    (hkeep : ∀ s a, I s → E s a → C s a → I (step s a))
    (hbreak : ∀ s a, I s → E s a → G (step s a) → C s a) {s : σ}
    {cmds : List α} (hs : I s) (hE : Along step E s cmds) :
    Always step G s cmds ↔ Along step C s cmds := by
  rw [always_iff_along]
  constructor
  · rintro ⟨-, hQ⟩
    refine (along_iff_along (fun s a hs hE hC => ?_) hbreak hs hE).mp hQ
    exact ⟨hI _ (hkeep s a hs hE hC), hkeep s a hs hE hC⟩
  · intro hC
    refine ⟨hI s hs, (along_iff_along (fun s a hs hE hC => ?_) hbreak hs hE).mpr hC⟩
    exact ⟨hI _ (hkeep s a hs hE hC), hkeep s a hs hE hC⟩

end CameraPorting.Library.Runs
