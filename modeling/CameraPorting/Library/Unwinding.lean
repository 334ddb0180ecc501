import CameraPorting.Library.EnableCounts

namespace CameraPorting.Library.Unwinding

open CameraPorting.Library.EnableCounts

/-- A routine that can fail; a failed one keeps the state that it reached. -/
abbrev Routine (ε σ α : Type) := ExceptT ε (StateM σ) α

variable {ε σ τ α β : Type}

/-- The routine with the cleanup of its error label. -/
def onError (cleanup : σ → σ) (x : Routine ε σ α) : Routine ε σ α := fun s =>
  match x s with
  | (.ok a, t) => (.ok a, t)
  | (.error e, t) => (.error e, cleanup t)

/-- The routine with all its errors turned into one. -/
def failingWith (e : ε) (x : Routine ε σ α) : Routine ε σ α := fun s =>
  match x s with
  | (.ok a, t) => (.ok a, t)
  | (.error _, t) => (.error e, t)

def rejectIf (c : Prop) [Decidable c] (e : ε) : Routine ε σ PUnit := if c then throw e else pure ()

def onPart (get : σ → τ) (set : σ → τ → σ) (x : Routine ε τ α) : Routine ε σ α := fun s =>
  ((x (get s)).1, set s (x (get s)).2)

theorem bind_ok {x : Routine ε σ α} {s t : σ} {a : α} (h : x s = (.ok a, t))
    (k : α → Routine ε σ β) : (x >>= k) s = k a t := by
  change (match x s with | (r, t) => ExceptT.bindCont k r t) = k a t
  rw [h]
  rfl

theorem bind_error {x : Routine ε σ α} {s t : σ} {e : ε} (h : x s = (.error e, t))
    (k : α → Routine ε σ β) : (x >>= k) s = (.error e, t) := by
  change (match x s with | (r, t) => ExceptT.bindCont k r t) = (.error e, t)
  rw [h]
  rfl

theorem bind_inv {x : Routine ε σ α} {k : α → Routine ε σ β} {s t : σ} {r : Except ε β}
    (h : (x >>= k) s = (r, t)) :
    (∃ a u, x s = (.ok a, u) ∧ k a u = (r, t)) ∨ ∃ e, x s = (.error e, t) ∧ r = .error e := by
  rcases hx : x s with ⟨e | a, u⟩
  · rw [bind_error hx] at h
    obtain ⟨rfl, rfl⟩ := Prod.mk.inj h
    exact .inr ⟨e, rfl, rfl⟩
  · rw [bind_ok hx] at h
    exact .inl ⟨a, u, rfl, h⟩

theorem onError_inv {cleanup : σ → σ} {x : Routine ε σ α} {s t : σ} {r : Except ε α}
    (h : onError cleanup x s = (r, t)) :
    (∃ a, x s = (.ok a, t) ∧ r = .ok a) ∨
      ∃ e u, x s = (.error e, u) ∧ r = .error e ∧ t = cleanup u := by
  unfold onError at h
  split at h
  · rename_i a u hx
    obtain ⟨rfl, rfl⟩ := Prod.mk.inj h
    exact .inl ⟨a, hx, rfl⟩
  · rename_i e u hx
    obtain ⟨rfl, rfl⟩ := Prod.mk.inj h
    exact .inr ⟨e, u, hx, rfl, rfl⟩

theorem failingWith_inv {e : ε} {x : Routine ε σ α} {s t : σ} {r : Except ε α}
    (h : failingWith e x s = (r, t)) :
    (∃ a, x s = (.ok a, t) ∧ r = .ok a) ∨ ∃ e', x s = (.error e', t) ∧ r = .error e := by
  unfold failingWith at h
  split at h
  · rename_i a u hx
    obtain ⟨rfl, rfl⟩ := Prod.mk.inj h
    exact .inl ⟨a, hx, rfl⟩
  · rename_i e' u hx
    obtain ⟨rfl, rfl⟩ := Prod.mk.inj h
    exact .inr ⟨e', hx, rfl⟩

/-- When the routine succeeds, it has reached a state with the property. -/
def Ensures (Q : σ → Prop) (x : Routine ε σ α) : Prop := ∀ s a t, x s = (.ok a, t) → Q t

theorem ensures_bind {Q : σ → Prop} {x : Routine ε σ α} {k : α → Routine ε σ β}
    (hk : ∀ a, Ensures Q (k a)) : Ensures Q (x >>= k) := by
  intro s b t hrun
  rcases bind_inv hrun with ⟨a, u, -, hrest⟩ | ⟨e, -, h⟩
  · exact hk a u b t hrest
  · exact absurd h nofun

section Keeps

variable {γ : Type*} {view : σ → γ}

/-- Whatever the outcome, the view of the state stays. -/
def Keeps (view : σ → γ) (x : Routine ε σ α) : Prop := ∀ s, view (x s).2 = view s

theorem keeps_bind {x : Routine ε σ α} {k : α → Routine ε σ β} (hx : Keeps view x)
    (hk : ∀ a, Keeps view (k a)) : Keeps view (x >>= k) := by
  intro s
  have hfirst := hx s
  rcases hrun : x s with ⟨e | a, t⟩
  · rw [bind_error hrun]
    rwa [hrun] at hfirst
  · rw [bind_ok hrun, hk a t]
    rwa [hrun] at hfirst

theorem keeps_rejectIf (c : Prop) [Decidable c] (e : ε) :
    Keeps view (rejectIf c e : Routine ε σ PUnit) := by
  intro s
  unfold rejectIf
  split
  · rfl
  · rfl

theorem keeps_failingWith {x : Routine ε σ α} (hx : Keeps view x) (e : ε) :
    Keeps view (failingWith e x) := by
  intro s
  have hkept := hx s
  unfold failingWith
  rcases hrun : x s with ⟨e' | a, t⟩
  · rwa [hrun] at hkept
  · rwa [hrun] at hkept

theorem keeps_onError {cleanup : σ → σ} {x : Routine ε σ α} (hx : Keeps view x)
    (hcleanup : ∀ s, view (cleanup s) = view s) : Keeps view (onError cleanup x) := by
  intro s
  have hkept := hx s
  unfold onError
  rcases hrun : x s with ⟨e | a, t⟩
  · rw [hrun] at hkept
    exact (hcleanup t).trans hkept
  · rwa [hrun] at hkept

/-- A cleanup that runs whether or not the routine before it fails. -/
theorem cleanup_always (undo : γ → γ) {g : σ → σ} {x : Routine ε σ α} (hx : Keeps view x)
    (hg : ∀ s, view (g s) = undo (view s)) (s : σ) :
    view ((onError g x >>= fun _ => modify g : Routine ε σ PUnit) s).2 = undo (view s) := by
  have hkept := hx s
  rcases hrun : x s with ⟨e | a, t⟩
  · rw [hrun] at hkept
    have hfirst : onError g x s = (.error e, g t) := by
      unfold onError
      rw [hrun]
    rw [bind_error hfirst]
    exact (hg t).trans (congrArg undo hkept)
  · rw [hrun] at hkept
    have hfirst : onError g x s = (.ok a, t) := by
      unfold onError
      rw [hrun]
    rw [bind_ok hfirst]
    exact (hg t).trans (congrArg undo hkept)

theorem keeps_onPart {get : σ → τ} {set : σ → τ → σ} (x : Routine ε τ α)
    (hset : ∀ s t, view (set s t) = view s) : Keeps view (onPart get set x) :=
  fun s => hset s (x (get s)).2

end Keeps

section Takes

variable {ρ : Type} [DecidableEq ρ] {counts : σ → ρ → Nat}

/-- The routine takes the resources when it succeeds, and none when it fails. -/
structure Takes (counts : σ → ρ → Nat) (rs : List ρ) (x : Routine ε σ α) : Prop where
  ok : ∀ {s a t}, x s = (.ok a, t) → counts t = increaseAll (counts s) rs
  error : ∀ {s e t}, x s = (.error e, t) → counts t = counts s

theorem takes_of_keeps {x : Routine ε σ α} (h : Keeps counts x) : Takes counts [] x where
  ok {s a t} hrun := by
    have hcounts := h s
    rwa [hrun] at hcounts
  error {s e t} hrun := by
    have hcounts := h s
    rwa [hrun] at hcounts

/-- A routine that only fails takes whatever it is said to. -/
theorem takes_throw (rs : List ρ) (e : ε) : Takes counts rs (throw e : Routine ε σ α) where
  ok hrun := absurd (congrArg Prod.fst hrun) nofun
  error hrun := congrArg counts (congrArg Prod.snd hrun).symm

theorem takes_rejectIf (c : Prop) [Decidable c] (e : ε) :
    Takes counts [] (rejectIf c e : Routine ε σ PUnit) := takes_of_keeps (keeps_rejectIf c e)

theorem takes_modify {g : σ → σ} {rs : List ρ}
    (h : ∀ s, counts (g s) = increaseAll (counts s) rs) :
    Takes counts rs (modify g : Routine ε σ PUnit) where
  ok {s a t} hrun := by
    obtain ⟨-, rfl⟩ := Prod.mk.inj hrun
    exact h s
  error hrun := absurd (congrArg Prod.fst hrun) nofun

theorem takes_failingWith {rs : List ρ} {x : Routine ε σ α} (hx : Takes counts rs x) (e : ε) :
    Takes counts rs (failingWith e x) where
  ok hrun := by
    rcases failingWith_inv hrun with ⟨a, h, -⟩ | ⟨e', -, h⟩
    · exact hx.ok h
    · exact absurd h nofun
  error hrun := by
    rcases failingWith_inv hrun with ⟨a, -, h⟩ | ⟨e', h, -⟩
    · exact absurd h nofun
    · exact hx.error h

theorem takes_onPart {partCounts : τ → ρ → Nat} {rs : List ρ} {x : Routine ε τ α}
    {get : σ → τ} {set : σ → τ → σ} (hx : Takes partCounts rs x)
    (hget : ∀ s, counts s = partCounts (get s)) (hset : ∀ s t, counts (set s t) = partCounts t) :
    Takes counts rs (onPart get set x) where
  ok {s a t} hrun := by
    obtain ⟨hresult, rfl⟩ := Prod.mk.inj hrun
    rw [hset, hget]
    exact hx.ok (Prod.ext hresult rfl)
  error {s e t} hrun := by
    obtain ⟨hresult, rfl⟩ := Prod.mk.inj hrun
    rw [hset, hget]
    exact hx.error (Prod.ext hresult rfl)

theorem takes_bind {rs : List ρ} {x : Routine ε σ α} {k : α → Routine ε σ β}
    (hx : Takes counts [] x) (hk : ∀ a, Takes counts rs (k a)) : Takes counts rs (x >>= k) where
  ok {s b t} hrun := by
    rcases bind_inv hrun with ⟨a, u, hfirst, hrest⟩ | ⟨e, -, h⟩
    · rw [(hk a).ok hrest, hx.ok hfirst]
      rfl
    · exact absurd h nofun
  error {s e t} hrun := by
    rcases bind_inv hrun with ⟨a, u, hfirst, hrest⟩ | ⟨e', hfirst, -⟩
    · rw [(hk a).error hrest, hx.ok hfirst]
      rfl
    · exact hx.error hfirst

/-- After a step that takes resources, the rest needs a cleanup that gives them back. -/
theorem takes_bind_onError {rs more order : List ρ} {cleanup : σ → σ} {x : Routine ε σ α}
    {k : α → Routine ε σ β} (hx : Takes counts rs x) (hk : ∀ a, Takes counts more (k a))
    (hcleanup : ∀ s, counts (cleanup s) = decreaseAll (counts s) order) (horder : order.Perm rs) :
    Takes counts (rs ++ more) (x >>= fun a => onError cleanup (k a)) where
  ok {s b t} hrun := by
    rcases bind_inv hrun with ⟨a, u, hfirst, hrest⟩ | ⟨e, -, h⟩
    · rcases onError_inv hrest with ⟨b', hk', -⟩ | ⟨e, u', -, h, -⟩
      · rw [(hk a).ok hk', hx.ok hfirst, increaseAll_append]
      · exact absurd h nofun
    · exact absurd h nofun
  error {s e t} hrun := by
    rcases bind_inv hrun with ⟨a, u, hfirst, hrest⟩ | ⟨e', hfirst, -⟩
    · rcases onError_inv hrest with ⟨b, -, h⟩ | ⟨e', u', hk', -, rfl⟩
      · exact absurd h nofun
      · rw [hcleanup, (hk a).error hk', hx.ok hfirst, decreaseAll_increaseAll horder]
    · exact hx.error hfirst

/-- What comes after the last step that can fail may give a part of the resources back. -/
theorem takes_bind_giveBack {rs part : List ρ} (rest : List ρ) {g : σ → σ}
    {x : Routine ε σ α} (hx : Takes counts rs x)
    (hg : ∀ s, counts (g s) = decreaseAll (counts s) part)
    (hpart : rs.Perm (rest ++ part)) : Takes counts rest (x >>= fun _ => modify g) where
  ok {s b t} hrun := by
    rcases bind_inv hrun with ⟨a, u, hfirst, hrest⟩ | ⟨e, -, h⟩
    · obtain ⟨-, rfl⟩ := Prod.mk.inj hrest
      rw [hg, hx.ok hfirst, decreaseAll_increaseAll_part hpart]
    · exact absurd h nofun
  error {s e t} hrun := by
    rcases bind_inv hrun with ⟨a, u, hfirst, hrest⟩ | ⟨e', hfirst, -⟩
    · exact absurd (congrArg Prod.fst hrest) nofun
    · exact hx.error hfirst

theorem takes_bind_modify {rs : List ρ} {g : σ → σ} {x : Routine ε σ α}
    (hx : Takes counts rs x) (hg : ∀ s, counts (g s) = counts s) :
    Takes counts rs (x >>= fun _ => modify g) := by
  have hnothing : ∀ s, counts (g s) = decreaseAll (counts s) [] := hg
  refine takes_bind_giveBack rs hx hnothing ?_
  rw [List.append_nil]

theorem takes_bind_onError_modify {rs more order : List ρ} {cleanup g : σ → σ}
    {x y : Routine ε σ PUnit} (hx : Takes counts rs x) (hy : Takes counts more y)
    (hcleanup : ∀ s, counts (cleanup s) = decreaseAll (counts s) order) (horder : order.Perm rs)
    (hg : ∀ s, counts (g s) = counts s) :
    Takes counts (rs ++ more) (x >>= fun _ => onError cleanup y >>= fun _ => modify g) := by
  have hbound := takes_bind_modify (takes_bind_onError hx (fun _ => hy) hcleanup horder) hg
  rwa [bind_assoc] at hbound

/-- A call that takes nothing, with the outcome that comes next. -/
def attempt : Routine ε (Power ρ ε) PUnit := fun p =>
  match p.outcomes with
  | [] => (.ok (), p)
  | none :: rest => (.ok (), { p with outcomes := rest })
  | some e :: rest => (.error e, { p with outcomes := rest })

omit [DecidableEq ρ] in
theorem attempt_counts (p : Power ρ ε) : (attempt p).2.counts = p.counts := by
  unfold attempt
  split
  · rfl
  · rfl
  · rfl

omit [DecidableEq ρ] in
theorem attempt_outcomes (p : Power ρ ε) : (attempt p).2.outcomes = p.outcomes.drop 1 := by
  obtain ⟨counts, outcomes⟩ := p
  rcases outcomes with _ | ⟨_ | e, rest⟩
  · rfl
  · rfl
  · rfl

theorem takes_attempt : Takes Power.counts [] (attempt : Routine ε (Power ρ ε) PUnit) :=
  takes_of_keeps attempt_counts

theorem takes_enableAll (rs : List ρ) :
    Takes Power.counts rs (enableAll rs : Routine ε (Power ρ ε) PUnit) where
  ok {p a q} hrun := by
    rcases enableAll_spec rs p with ⟨-, henable⟩ | ⟨-, e, q', henable, -⟩
    · obtain ⟨-, rfl⟩ := Prod.mk.inj (henable.symm.trans hrun)
      rfl
    · exact absurd (congrArg Prod.fst (henable.symm.trans hrun)) nofun
  error {p e q} hrun := by
    rcases enableAll_spec rs p with ⟨-, henable⟩ | ⟨-, e', q', henable, hcounts⟩
    · exact absurd (congrArg Prod.fst (henable.symm.trans hrun)) nofun
    · obtain ⟨-, rfl⟩ := Prod.mk.inj (henable.symm.trans hrun)
      exact hcounts

theorem enable_eq (r : ρ) : (enable r : Routine ε (Power ρ ε) PUnit) = enableAll [r] := by
  funext p
  exact (enableAll_singleton r p).symm

theorem takes_enable (r : ρ) : Takes Power.counts [r] (enable r : Routine ε (Power ρ ε) PUnit) := by
  rw [enable_eq]
  exact takes_enableAll [r]

end Takes

/-- The routine succeeds exactly from the states with `P`, and moves these by `f`. -/
def SucceedsFrom (P : σ → Prop) (f : σ → σ) (x : Routine ε σ PUnit) : Prop :=
  ∀ s, (P s ∧ x s = (.ok (), f s)) ∨ (¬P s ∧ ∃ e t, x s = (.error e, t))

theorem succeedsFrom_self (x : Routine ε σ PUnit) :
    SucceedsFrom (fun s => (x s).1 = .ok ()) (fun s => (x s).2) x := by
  intro s
  rcases hrun : x s with ⟨e | _, t⟩
  · refine .inr ⟨fun h => ?_, e, t, rfl⟩
    exact absurd ((congrArg Prod.fst hrun).symm.trans h) nofun
  · exact .inl ⟨congrArg Prod.fst hrun, Prod.ext rfl (congrArg Prod.snd hrun).symm⟩

theorem succeedsFrom_throw (e : ε) :
    SucceedsFrom (fun _ => False) id (throw e : Routine ε σ PUnit) :=
  fun s => .inr ⟨id, e, s, rfl⟩

theorem succeedsFrom_modify (f : σ → σ) :
    SucceedsFrom (fun _ => True) f (modify f : Routine ε σ PUnit) :=
  fun _ => .inl ⟨trivial, rfl⟩

/-- A check stands for the condition under which it lets the routine go on. -/
theorem succeedsFrom_rejectIf (c : Prop) [Decidable c] (e : ε) :
    SucceedsFrom (fun _ => ¬c) id (rejectIf c e : Routine ε σ PUnit) := by
  intro s
  unfold rejectIf
  by_cases h : c
  · rw [if_pos h]
    exact .inr ⟨not_not_intro h, e, s, rfl⟩
  · rw [if_neg h]
    exact .inl ⟨h, rfl⟩

theorem succeedsFrom_bind {P Q : σ → Prop} {f g : σ → σ} {x y : Routine ε σ PUnit}
    (hx : SucceedsFrom P f x) (hy : SucceedsFrom Q g y) :
    SucceedsFrom (fun s => P s ∧ Q (f s)) (g ∘ f) (x >>= fun _ => y) := by
  intro s
  rcases hx s with ⟨hP, hrun⟩ | ⟨hP, e, t, hrun⟩
  · rw [bind_ok hrun]
    rcases hy (f s) with ⟨hQ, hrest⟩ | ⟨hQ, hrest⟩
    · exact .inl ⟨⟨hP, hQ⟩, hrest⟩
    · exact .inr ⟨fun h => hQ h.2, hrest⟩
  · exact .inr ⟨fun h => hP h.1, e, t, bind_error hrun _⟩

theorem SucceedsFrom.congr {P Q : σ → Prop} {f g : σ → σ} {x : Routine ε σ PUnit}
    (hx : SucceedsFrom P f x) (hP : ∀ s, P s ↔ Q s) (hf : ∀ s, f s = g s) :
    SucceedsFrom Q g x := by
  intro s
  rw [← hP, ← hf]
  exact hx s

theorem succeedsFrom_onError {P : σ → Prop} {f : σ → σ} {x : Routine ε σ PUnit}
    (hx : SucceedsFrom P f x) (cleanup : σ → σ) : SucceedsFrom P f (onError cleanup x) := by
  intro s
  unfold onError
  rcases hx s with ⟨hP, hrun⟩ | ⟨hP, e, t, hrun⟩
  · rw [hrun]
    exact .inl ⟨hP, rfl⟩
  · rw [hrun]
    exact .inr ⟨hP, e, cleanup t, rfl⟩

theorem succeedsFrom_failingWith {P : σ → Prop} {f : σ → σ} {x : Routine ε σ PUnit}
    (hx : SucceedsFrom P f x) (e : ε) : SucceedsFrom P f (failingWith e x) := by
  intro s
  unfold failingWith
  rcases hx s with ⟨hP, hrun⟩ | ⟨hP, e', t, hrun⟩
  · rw [hrun]
    exact .inl ⟨hP, rfl⟩
  · rw [hrun]
    exact .inr ⟨hP, e, t, rfl⟩

theorem succeedsFrom_onPart {P : τ → Prop} {f : τ → τ} {x : Routine ε τ PUnit} {get : σ → τ}
    {set : σ → τ → σ} (hx : SucceedsFrom P f x) :
    SucceedsFrom (fun s => P (get s)) (fun s => set s (f (get s))) (onPart get set x) := by
  intro s
  unfold onPart
  rcases hx (get s) with ⟨hP, hrun⟩ | ⟨hP, e, t, hrun⟩
  · rw [hrun]
    exact .inl ⟨hP, rfl⟩
  · rw [hrun]
    exact .inr ⟨hP, e, _, rfl⟩

section Outcomes

variable {ρ : Type} [DecidableEq ρ]

/-- None of the next `n` calls fails. -/
def NoFailure (n : Nat) (outcomes : List (Option ε)) : Prop :=
  ∀ outcome ∈ outcomes.take n, outcome = none

theorem noFailure_add (n m : Nat) (outcomes : List (Option ε)) :
    NoFailure (n + m) outcomes ↔ NoFailure n outcomes ∧ NoFailure m (outcomes.drop n) := by
  unfold NoFailure
  rw [List.take_add]
  simp only [List.mem_append, or_imp, forall_and]

/-- The counts with these resources taken, after as many calls as given. -/
def taken (rs : List ρ) (calls : Nat) (p : Power ρ ε) : Power ρ ε :=
  ⟨increaseAll p.counts rs, p.outcomes.drop calls⟩

theorem taken_taken (rs more : List ρ) (n m : Nat) (p : Power ρ ε) :
    taken more m (taken rs n p) = taken (rs ++ more) (n + m) p := by
  unfold taken increaseAll
  rw [List.foldl_append, List.drop_drop]

theorem succeedsFrom_attempt :
    SucceedsFrom (fun p => NoFailure 1 p.outcomes) (taken [] 1)
      (attempt : Routine ε (Power ρ ε) PUnit) := by
  intro p
  obtain ⟨counts, outcomes⟩ := p
  rcases outcomes with _ | ⟨_ | e, rest⟩
  · exact .inl ⟨fun o h => absurd h List.not_mem_nil, rfl⟩
  · exact .inl ⟨fun o h => List.mem_singleton.mp h, rfl⟩
  · refine .inr ⟨fun h => ?_, e, _, rfl⟩
    exact absurd (h (some e) (List.mem_singleton.mpr rfl)) nofun

theorem succeedsFrom_enableAll (rs : List ρ) :
    SucceedsFrom (fun p => NoFailure rs.length p.outcomes) (taken rs rs.length)
      (enableAll rs : Routine ε (Power ρ ε) PUnit) := by
  intro p
  have hiff : failure rs p.outcomes = none ↔ NoFailure rs.length p.outcomes :=
    failure_eq_none_iff rs p.outcomes
  rcases enableAll_spec rs p with ⟨hnone, hrun⟩ | ⟨hfailure, e, q, hrun, -⟩
  · exact .inl ⟨hiff.mp hnone, hrun⟩
  · exact .inr ⟨fun h => hfailure (hiff.mpr h), e, q, hrun⟩

theorem succeedsFrom_enable (r : ρ) :
    SucceedsFrom (fun p => NoFailure 1 p.outcomes) (taken [r] 1)
      (enable r : Routine ε (Power ρ ε) PUnit) := by
  rw [enable_eq]
  exact succeedsFrom_enableAll [r]

end Outcomes

theorem SucceedsFrom.ok_iff {P : σ → Prop} {f : σ → σ} {x : Routine ε σ PUnit}
    (hx : SucceedsFrom P f x) (s : σ) : (x s).1 = .ok () ↔ P s := by
  rcases hx s with ⟨hP, hrun⟩ | ⟨hP, e, t, hrun⟩
  · rw [hrun]
    exact ⟨fun _ => hP, fun _ => rfl⟩
  · rw [hrun]
    exact ⟨nofun, fun h => absurd h hP⟩

end CameraPorting.Library.Unwinding
