import Mathlib.Data.List.Basic
import Mathlib.Data.List.Nodup
import Mathlib.Logic.Function.Basic

/-!
Resources that count how often they are enabled: regulators, clocks, references. A
sequence of enables stops at its first failure. What it leaves is undone by disabling
what it enabled, in any order, and by nothing else.
-/

namespace CameraPorting.Library.EnableCounts

variable {ρ ε : Type*} [DecidableEq ρ]

/-- The counts, and the outcomes of the calls to come; after these every one succeeds. -/
structure Power (ρ ε : Type*) where
  counts : ρ → Nat
  outcomes : List (Option ε)

def increase (counts : ρ → Nat) (r : ρ) : ρ → Nat := Function.update counts r (counts r + 1)

/-- A count of zero stays: the kernel refuses the disable. -/
def decrease (counts : ρ → Nat) (r : ρ) : ρ → Nat := Function.update counts r (counts r - 1)

def enable (r : ρ) (p : Power ρ ε) : Except ε Unit × Power ρ ε :=
  match p.outcomes with
  | [] => (.ok (), { p with counts := increase p.counts r })
  | none :: rest => (.ok (), ⟨increase p.counts r, rest⟩)
  | some e :: rest => (.error e, { p with outcomes := rest })

def enableInOrder : List ρ → Power ρ ε → Except ε Unit × Power ρ ε
  | [], p => (.ok (), p)
  | r :: rs, p =>
      match enable r p with
      | (.ok (), p) => enableInOrder rs p
      | (.error e, p) => (.error e, p)

def increaseAll (counts : ρ → Nat) (rs : List ρ) : ρ → Nat := rs.foldl increase counts

def decreaseAll (counts : ρ → Nat) (rs : List ρ) : ρ → Nat := rs.foldl decrease counts

def enabled : List ρ → List (Option ε) → List ρ
  | [], _ => []
  | rs, [] => rs
  | r :: rs, none :: rest => r :: enabled rs rest
  | _ :: _, some _ :: _ => []

def failure : List ρ → List (Option ε) → Option ε
  | [], _ => none
  | _, [] => none
  | _ :: rs, none :: rest => failure rs rest
  | _ :: _, some e :: _ => some e

theorem increaseAll_apply (counts : ρ → Nat) (rs : List ρ) (r : ρ) :
    increaseAll counts rs r = counts r + rs.count r := by
  induction rs generalizing counts with
  | nil => rfl
  | cons first rs ih =>
      rw [increaseAll, List.foldl_cons, ← increaseAll, ih, increase, List.count_cons]
      rcases eq_or_ne first r with rfl | hne
      · simp only [Function.update_self, beq_self_eq_true, if_true]
        omega
      · simp [Function.update_of_ne hne.symm, hne]

theorem decreaseAll_apply (counts : ρ → Nat) (rs : List ρ) (r : ρ) :
    decreaseAll counts rs r = counts r - rs.count r := by
  induction rs generalizing counts with
  | nil => rfl
  | cons first rs ih =>
      rw [decreaseAll, List.foldl_cons, ← decreaseAll, ih, decrease, List.count_cons]
      rcases eq_or_ne first r with rfl | hne
      · simp only [Function.update_self, beq_self_eq_true, if_true]
        omega
      · simp [Function.update_of_ne hne.symm, hne]

/-- To disable what was enabled, in any order, restores every count. -/
theorem decreaseAll_increaseAll {rs rs' : List ρ} (h : rs'.Perm rs) (counts : ρ → Nat) :
    decreaseAll (increaseAll counts rs) rs' = counts := by
  funext r
  rw [decreaseAll_apply, increaseAll_apply, h.count_eq, Nat.add_sub_cancel]

theorem increaseAll_append (counts : ρ → Nat) (rs more : List ρ) :
    increaseAll counts (rs ++ more) = increaseAll (increaseAll counts rs) more := by
  unfold increaseAll
  rw [List.foldl_append]

theorem increaseAll_perm {rs rs' : List ρ} (h : rs.Perm rs') (counts : ρ → Nat) :
    increaseAll counts rs = increaseAll counts rs' := by
  funext r
  rw [increaseAll_apply, increaseAll_apply, h.count_eq]

/-- To disable a part of what was enabled leaves the rest. -/
theorem decreaseAll_increaseAll_part {rs part rest : List ρ} (h : rs.Perm (rest ++ part))
    (counts : ρ → Nat) : decreaseAll (increaseAll counts rs) part = increaseAll counts rest := by
  rw [increaseAll_perm h, increaseAll_append, decreaseAll_increaseAll (List.Perm.refl part)]

/-- To disable more than was enabled restores the counts only where nobody else had
enabled what was not. -/
theorem decreaseAll_increaseAll_iff {rs rs' : List ρ} (hnodup : rs.Nodup)
    (hnodup' : rs'.Nodup) (hsub : rs ⊆ rs') (counts : ρ → Nat) :
    decreaseAll (increaseAll counts rs) rs' = counts ↔
      ∀ r ∈ rs', r ∉ rs → counts r = 0 := by
  have hcounts : ∀ r, decreaseAll (increaseAll counts rs) rs' r =
      counts r + rs.count r - rs'.count r := by
    intro r
    rw [decreaseAll_apply, increaseAll_apply]
  constructor
  · intro h r hmem hnot
    have hr := hcounts r
    rw [h, List.count_eq_zero_of_not_mem hnot, List.count_eq_one_of_mem hnodup' hmem] at hr
    omega
  · intro h
    funext r
    rw [hcounts]
    rcases Decidable.em (r ∈ rs) with hmem | hnot
    · rw [List.count_eq_one_of_mem hnodup hmem, List.count_eq_one_of_mem hnodup' (hsub hmem),
        Nat.add_sub_cancel]
    · rw [List.count_eq_zero_of_not_mem hnot, Nat.add_zero]
      rcases Decidable.em (r ∈ rs') with hmem' | hnot'
      · rw [h r hmem' hnot, Nat.zero_sub]
      · rw [List.count_eq_zero_of_not_mem hnot', Nat.sub_zero]

theorem increaseAll_eq_iff {rs : List ρ} {counts : ρ → Nat} :
    increaseAll counts rs = counts ↔ rs = [] := by
  constructor
  · intro h
    rw [List.eq_nil_iff_forall_not_mem]
    intro r hmem
    have hr := congrFun h r
    rw [increaseAll_apply] at hr
    have := List.count_pos_iff.mpr hmem
    omega
  · rintro rfl
    rfl

omit [DecidableEq ρ] in
@[simp] theorem enabled_nil (rs : List ρ) : enabled rs ([] : List (Option ε)) = rs := by
  cases rs with
  | nil => rfl
  | cons r rs => rfl

omit [DecidableEq ρ] in
@[simp] theorem failure_nil (rs : List ρ) : failure rs ([] : List (Option ε)) = none := by
  cases rs with
  | nil => rfl
  | cons r rs => rfl

omit [DecidableEq ρ] in
theorem enabled_prefix (rs : List ρ) (outcomes : List (Option ε)) :
    enabled rs outcomes <+: rs := by
  induction rs, outcomes using enabled.induct with
  | case1 => simp [enabled]
  | case2 => simp
  | case3 r rs rest ih => simpa [enabled] using ih
  | case4 => simp [enabled]

omit [DecidableEq ρ] in
theorem enabled_of_failure_eq_none {rs : List ρ} {outcomes : List (Option ε)}
    (h : failure rs outcomes = none) : enabled rs outcomes = rs := by
  induction rs, outcomes using enabled.induct with
  | case1 => rfl
  | case2 => simp
  | case3 r rs rest ih => simpa [enabled] using ih h
  | case4 => simp [failure] at h

/-- A sequence of enables leaves the counts of what it enabled before its first failure. -/
theorem enableInOrder_spec (rs : List ρ) (p : Power ρ ε) :
    (enableInOrder rs p).1 = (match failure rs p.outcomes with
      | none => .ok ()
      | some e => .error e) ∧
      (enableInOrder rs p).2.counts = increaseAll p.counts (enabled rs p.outcomes) := by
  induction rs generalizing p with
  | nil => simp [enableInOrder, failure, enabled, increaseAll]
  | cons r rs ih =>
      obtain ⟨counts, outcomes⟩ := p
      rcases outcomes with _ | ⟨_ | e, rest⟩
      · have hstep : enableInOrder (r :: rs) (⟨counts, []⟩ : Power ρ ε) =
            enableInOrder rs ⟨increase counts r, []⟩ := rfl
        rw [hstep]
        simpa [increaseAll] using ih ⟨increase counts r, []⟩
      · exact ih ⟨increase counts r, rest⟩
      · simp [enableInOrder, enable, failure, enabled, increaseAll]

omit [DecidableEq ρ] in
theorem failure_eq_none_iff (rs : List ρ) (outcomes : List (Option ε)) :
    failure rs outcomes = none ↔ ∀ outcome ∈ outcomes.take rs.length, outcome = none := by
  induction rs, outcomes using enabled.induct with
  | case1 => simp [failure]
  | case2 => simp
  | case3 r rs rest ih => simp [failure, ih]
  | case4 => simp [failure]

theorem enableInOrder_of_failure_eq_none {rs : List ρ} {p : Power ρ ε}
    (h : failure rs p.outcomes = none) :
    enableInOrder rs p = (.ok (), ⟨increaseAll p.counts rs, p.outcomes.drop rs.length⟩) := by
  induction rs generalizing p with
  | nil => rfl
  | cons r rs ih =>
      obtain ⟨counts, outcomes⟩ := p
      rcases outcomes with _ | ⟨_ | e, rest⟩
      · exact (@ih ⟨increase counts r, []⟩ (failure_nil rs)).trans (by rw [List.drop_nil]; rfl)
      · exact @ih ⟨increase counts r, rest⟩ h
      · exact absurd h nofun

/-- Enables all of the resources, or none: after a failure those that it got to are
disabled again. -/
def enableAll (rs : List ρ) (p : Power ρ ε) : Except ε Unit × Power ρ ε :=
  match enableInOrder rs p with
  | (.ok (), q) => (.ok (), q)
  | (.error e, q) => (.error e, { q with counts := decreaseAll q.counts (enabled rs p.outcomes) })

theorem enableAll_singleton (r : ρ) (p : Power ρ ε) : enableAll [r] p = enable r p := by
  obtain ⟨counts, outcomes⟩ := p
  rcases outcomes with _ | ⟨_ | e, rest⟩
  · rfl
  · rfl
  · rfl

theorem enableAll_spec (rs : List ρ) (p : Power ρ ε) :
    (failure rs p.outcomes = none ∧ enableAll rs p =
        (.ok (), ⟨increaseAll p.counts rs, p.outcomes.drop rs.length⟩)) ∨
      (failure rs p.outcomes ≠ none ∧ ∃ e q, enableAll rs p = (.error e, q) ∧
        q.counts = p.counts) := by
  obtain ⟨hresult, hcounts⟩ := enableInOrder_spec rs p
  unfold enableAll
  rcases hfailure : failure rs p.outcomes with _ | e
  · rw [enableInOrder_of_failure_eq_none hfailure]
    exact .inl ⟨rfl, rfl⟩
  · rw [hfailure] at hresult
    rcases hrun : enableInOrder rs p with ⟨r, q⟩
    rw [hrun] at hresult hcounts
    obtain rfl : r = .error e := hresult
    refine .inr ⟨nofun, e, _, rfl, ?_⟩
    dsimp only at hcounts ⊢
    rw [hcounts, decreaseAll_increaseAll (List.Perm.refl _)]

end CameraPorting.Library.EnableCounts
