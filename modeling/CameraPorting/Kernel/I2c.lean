import CameraPorting.Kernel.Media

/-!
Driver routines that can fail, and an I2C client whose transfers do. A failed
routine keeps the state it reached.
-/

namespace CameraPorting.Kernel.I2c

open CameraPorting.Kernel.Media

abbrev U16 := BitVec 16

/-- A routine of a driver with state `σ`. -/
abbrev Driver (σ α : Type) := ExceptT Errno (StateM σ) α

theorem driver_pure {σ α : Type} (a : α) (s : σ) :
    (pure a : Driver σ α) s = (.ok a, s) := rfl

theorem driver_get {σ : Type} (s : σ) : (get : Driver σ σ) s = (.ok s, s) := rfl

theorem driver_modify {σ : Type} (f : σ → σ) (s : σ) :
    (modify f : Driver σ Unit) s = (.ok (), f s) := rfl

/-- After a step that succeeds a routine goes on from the state it reached. -/
theorem driver_bind_ok {σ α β : Type} {x : Driver σ α} {s t : σ} {a : α}
    (h : x s = (.ok a, t)) (f : α → Driver σ β) : (x >>= f) s = f a t := by
  change (match x s with | (r, t) => ExceptT.bindCont f r t) = f a t
  rw [h]
  rfl

theorem driver_bind_error {σ α β : Type} {x : Driver σ α} {s t : σ} {e : Errno}
    (h : x s = (.error e, t)) (f : α → Driver σ β) : (x >>= f) s = (.error e, t) := by
  change (match x s with | (r, t) => ExceptT.bindCont f r t) = (.error e, t)
  rw [h]
  rfl

theorem driver_bind_inv {σ α β : Type} {x : Driver σ α} {f : α → Driver σ β} {s t : σ} {b : β}
    (h : (x >>= f) s = (.ok b, t)) : ∃ a u, x s = (.ok a, u) ∧ f a u = (.ok b, t) := by
  rcases hrun : x s with ⟨e | a, u⟩
  · rw [driver_bind_error hrun] at h
    exact absurd (congrArg Prod.fst h) nofun
  · rw [driver_bind_ok hrun] at h
    exact ⟨a, u, rfl, h⟩

/-- Whatever the outcome of the routine, it leaves a state with the property when it
starts from one. -/
def Preserves {σ α : Type} (P : σ → Prop) (x : Driver σ α) : Prop :=
  ∀ s, P s → P (x s).2

theorem preserves_pure {σ α : Type} {P : σ → Prop} (a : α) :
    Preserves P (pure a : Driver σ α) := fun _ h => h

theorem preserves_throw {σ α : Type} {P : σ → Prop} (e : Errno) :
    Preserves P (throw e : Driver σ α) := fun _ h => h

theorem preserves_modify {σ : Type} {P : σ → Prop} {f : σ → σ} (h : ∀ s, P s → P (f s)) :
    Preserves P (modify f : Driver σ Unit) := h

/-- The continuation starts from the state the first routine reached. -/
theorem preserves_bind {σ α β : Type} {P : σ → Prop} {x : Driver σ α} {f : α → Driver σ β}
    (hx : Preserves P x) (hf : ∀ a, Preserves P (f a)) : Preserves P (x >>= f) := by
  intro s hs
  have hreached := hx s hs
  rcases hrun : x s with ⟨_ | a, t⟩
  · rw [driver_bind_error hrun]
    rwa [hrun] at hreached
  · rw [driver_bind_ok hrun]
    rw [hrun] at hreached
    exact hf a t hreached

theorem preserves_get_bind {σ β : Type} {P : σ → Prop} {f : σ → Driver σ β}
    (hf : ∀ s, P s → P (f s s).2) : Preserves P ((get : Driver σ σ) >>= f) := by
  intro s hs
  rw [driver_bind_ok (driver_get s)]
  exact hf s hs

/-- From related states the two routines return the same and reach related states. -/
def Simulates {σ τ α : Type} (R : σ → τ → Prop) (x : Driver σ α) (y : Driver τ α) : Prop :=
  ∀ s t, R s t → (x s).1 = (y t).1 ∧ R (x s).2 (y t).2

theorem simulates_pure {σ τ α : Type} {R : σ → τ → Prop} (a : α) :
    Simulates R (pure a : Driver σ α) (pure a : Driver τ α) := fun _ _ h => ⟨rfl, h⟩

theorem simulates_bind {σ τ α β : Type} {R : σ → τ → Prop} {x : Driver σ α} {y : Driver τ α}
    {f : α → Driver σ β} {g : α → Driver τ β} (hx : Simulates R x y)
    (hf : ∀ a, Simulates R (f a) (g a)) : Simulates R (x >>= f) (y >>= g) := by
  intro s t h
  obtain ⟨hresult, hreached⟩ := hx s t h
  rcases hrun : x s with ⟨r, s'⟩
  rcases hrun' : y t with ⟨r', t'⟩
  rw [hrun, hrun'] at hresult hreached
  obtain rfl : r = r' := hresult
  cases r with
  | error e =>
      rw [driver_bind_error hrun, driver_bind_error hrun']
      exact ⟨rfl, hreached⟩
  | ok a =>
      rw [driver_bind_ok hrun, driver_bind_ok hrun']
      exact hf a s' t' hreached

/-- A client with the device behind it. `faults` are the outcomes of the transfers
to come, in order; after them every transfer succeeds. -/
structure I2cClient (κ : Type) where
  chip : κ
  faults : List (Option Errno)

def i2cTransfer {κ : Type} : Driver (I2cClient κ) Unit := fun client =>
  match client.faults with
  | [] => (.ok (), client)
  | none :: rest => (.ok (), { client with faults := rest })
  | some e :: rest => (.error e, { client with faults := rest })

theorem i2cTransfer_ok {κ : Type} {client : I2cClient κ} (h : client.faults = []) :
    i2cTransfer client = (.ok (), client) := by
  unfold i2cTransfer
  rw [h]

/-- None of the next `n` transfers fails. -/
def NoFault (n : Nat) (faults : List (Option Errno)) : Prop :=
  ∀ fault ∈ faults.take n, fault = none

instance (n : Nat) (faults : List (Option Errno)) : Decidable (NoFault n faults) :=
  inferInstanceAs (Decidable (∀ fault ∈ faults.take n, fault = none))

theorem noFault_add (n m : Nat) (faults : List (Option Errno)) :
    NoFault (n + m) faults ↔ NoFault n faults ∧ NoFault m (faults.drop n) := by
  unfold NoFault
  rw [List.take_add]
  simp only [List.mem_append, or_imp, forall_and]

theorem noFault_one_iff (faults : List (Option Errno)) :
    NoFault 1 faults ↔ faults.getD 0 none = none := by
  rcases faults with _ | ⟨fault, rest⟩
  · exact ⟨fun _ => rfl, fun _ => nofun⟩
  · constructor
    · intro h
      exact h fault (List.mem_singleton.mpr rfl)
    · intro h other hmem
      exact (List.mem_singleton.mp hmem).trans h

theorem i2cTransfer_run {κ : Type} (client : I2cClient κ) :
    (NoFault 1 client.faults ∧
        i2cTransfer client = (.ok (), { client with faults := client.faults.drop 1 })) ∨
      (¬NoFault 1 client.faults ∧
        ∃ e, i2cTransfer client = (.error e, { client with faults := client.faults.drop 1 })) := by
  obtain ⟨chip, faults⟩ := client
  rw [noFault_one_iff]
  rcases faults with _ | ⟨_ | e, rest⟩
  · exact .inl ⟨rfl, rfl⟩
  · exact .inl ⟨rfl, rfl⟩
  · exact .inr ⟨Option.some_ne_none e, e, rfl⟩

/-- The routine makes `n` transfers when it succeeds, and fails exactly when one of
these fails. -/
def Transfers {κ α : Type} (n : Nat) (x : Driver (I2cClient κ) α) : Prop :=
  ∀ client, (NoFault n client.faults ∧ ∃ a after, x client = (.ok a, after) ∧
      after.faults = client.faults.drop n) ∨
    (¬NoFault n client.faults ∧ ∃ e after, x client = (.error e, after))

theorem transfers_pure {κ α : Type} (a : α) :
    Transfers 0 (pure a : Driver (I2cClient κ) α) := by
  intro client
  refine .inl ⟨?_, a, client, rfl, rfl⟩
  intro fault hmem
  exact absurd hmem List.not_mem_nil

theorem transfers_get {κ : Type} :
    Transfers 0 (get : Driver (I2cClient κ) (I2cClient κ)) := by
  intro client
  refine .inl ⟨?_, client, client, rfl, rfl⟩
  intro fault hmem
  exact absurd hmem List.not_mem_nil

theorem transfers_modify {κ : Type} {f : I2cClient κ → I2cClient κ}
    (h : ∀ client, (f client).faults = client.faults) :
    Transfers 0 (modify f : Driver (I2cClient κ) Unit) := by
  intro client
  refine .inl ⟨?_, (), f client, rfl, h client⟩
  intro fault hmem
  exact absurd hmem List.not_mem_nil

theorem transfers_i2cTransfer {κ : Type} :
    Transfers 1 (i2cTransfer : Driver (I2cClient κ) Unit) := by
  intro client
  rcases i2cTransfer_run client with ⟨hok, hrun⟩ | ⟨hfault, e, hrun⟩
  · exact .inl ⟨hok, (), _, hrun, rfl⟩
  · exact .inr ⟨hfault, e, _, hrun⟩

theorem transfers_bind {κ α β : Type} {n m : Nat} {x : Driver (I2cClient κ) α}
    {f : α → Driver (I2cClient κ) β} (hx : Transfers n x) (hf : ∀ a, Transfers m (f a)) :
    Transfers (m + n) (x >>= f) := by
  intro client
  rw [Nat.add_comm m n, noFault_add]
  rcases hx client with ⟨hok, a, after, hrun, hafter⟩ | ⟨hfault, e, after, hrun⟩
  · rw [driver_bind_ok hrun, ← hafter]
    rcases hf a after with ⟨hok', b, last, hrun', hlast⟩ | ⟨hfault', e, last, hrun'⟩
    · refine .inl ⟨⟨hok, hok'⟩, b, last, hrun', ?_⟩
      rw [hlast, hafter, List.drop_drop]
    · exact .inr ⟨fun h => hfault' h.2, e, last, hrun'⟩
  · exact .inr ⟨fun h => hfault h.1, e, after, driver_bind_error hrun f⟩

end CameraPorting.Kernel.I2c
