/-
Computations that can fail and that change a state either way: what one does after another, and
which properties of the state they keep.
-/

namespace EventIntake.Stateful

variable {δ ε σ α β : Type}

theorem run_bind (first : ExceptT ε (StateM σ) α) (next : α → ExceptT ε (StateM σ) β) (s : σ) :
    (first >>= next).run s =
      match first.run s with
      | (.ok a, t) => (next a).run t
      | (.error fault, t) => (.error fault, t) := by
  change StateT.bind first.run (fun result => ExceptT.bindCont next result) s = _
  simp only [StateT.bind]
  rcases first.run s with ⟨fault | a, t⟩
  · rfl
  · rfl

theorem run_bind_ok {first : ExceptT ε (StateM σ) α} {next : α → ExceptT ε (StateM σ) β}
    {s t : σ} {a : α} (hfirst : first.run s = (.ok a, t)) :
    (first >>= next).run s = (next a).run t := by
  rw [run_bind, hfirst]

theorem run_bind_error {first : ExceptT ε (StateM σ) α} {next : α → ExceptT ε (StateM σ) β}
    {s t : σ} {fault : ε} (hfirst : first.run s = (.error fault, t)) :
    (first >>= next).run s = (.error fault, t) := by
  rw [run_bind, hfirst]

/-- What succeeds has succeeded in its first part. -/
theorem exists_of_run_bind {first : ExceptT ε (StateM σ) α} {next : α → ExceptT ε (StateM σ) β}
    {s : σ} {b : β} (hok : ((first >>= next).run s).1 = .ok b) :
    ∃ a t, first.run s = (.ok a, t) ∧ ((next a).run t).1 = .ok b := by
  rw [run_bind] at hok
  rcases hfirst : first.run s with ⟨fault | a, t⟩
  · rw [hfirst] at hok
    cases hok
  · rw [hfirst] at hok
    exact ⟨a, t, rfl, hok⟩

theorem run_lift (result : Except ε α) (s : σ) :
    (liftM result : ExceptT ε (StateM σ) α).run s = (result, s) := rfl

theorem run_attempt (computation : ExceptT ε (StateM σ) α) (s : σ) :
    (liftM computation.run : ExceptT δ (StateM σ) (Except ε α)).run s =
      (.ok (computation.run s).1, (computation.run s).2) := rfl

/-- A computation keeps a property of the state, whether it fails or not. -/
def Keeps (property : σ → Prop) (computation : ExceptT ε (StateM σ) α) : Prop :=
  ∀ s, property s → property (computation.run s).2

namespace Keeps

variable {property : σ → Prop}

theorem ofExcept (result : Except ε α) : Keeps property (ExceptT.mk (pure result)) :=
  fun _ hs => hs

theorem get : Keeps property (MonadState.get : ExceptT ε (StateM σ) σ) := fun _ hs => hs

theorem modify {f : σ → σ} (hf : ∀ s, property s → property (f s)) :
    Keeps property (modify f : ExceptT ε (StateM σ) PUnit) :=
  fun s hs => hf s hs

/-- What follows a look at the state may rely on the state. -/
theorem get_bind {next : σ → ExceptT ε (StateM σ) α}
    (hnext : ∀ s, property s → property ((next s).run s).2) :
    Keeps property (MonadState.get >>= next) :=
  fun s hs => hnext s hs

/-- A computation whose fault becomes a result. -/
theorem attempt {computation : ExceptT ε (StateM σ) α} (hkeeps : Keeps property computation) :
    Keeps property (liftM computation.run : ExceptT δ (StateM σ) (Except ε α)) :=
  fun s hs => hkeeps s hs

theorem bind {first : ExceptT ε (StateM σ) α} {next : α → ExceptT ε (StateM σ) β}
    (hfirst : Keeps property first) (hnext : ∀ a, Keeps property (next a)) :
    Keeps property (first >>= next) := by
  intro s hs
  have hafter := hfirst s hs
  rw [run_bind]
  rcases hresult : first.run s with ⟨fault | a, t⟩
  · rw [hresult] at hafter
    exact hafter
  · rw [hresult] at hafter
    exact hnext a t hafter

end Keeps

/-- A computation fails only with faults of some kind. -/
def FailsOnly (kind : ε → Prop) (computation : ExceptT ε (StateM σ) α) : Prop :=
  ∀ s fault, (computation.run s).1 = .error fault → kind fault

namespace FailsOnly

variable {kind : ε → Prop}

theorem ofExcept {result : Except ε α} (hresult : ∀ fault, result = .error fault → kind fault) :
    FailsOnly kind (ExceptT.mk (pure result) : ExceptT ε (StateM σ) α) :=
  fun _ fault hfault => hresult fault hfault

/-- What follows a look at the state fails only with faults of the kind. -/
theorem get_bind {next : σ → ExceptT ε (StateM σ) α} (hnext : ∀ s, FailsOnly kind (next s)) :
    FailsOnly kind (MonadState.get >>= next) :=
  fun s fault hfault => hnext s s fault hfault

theorem bind {first : ExceptT ε (StateM σ) α} {next : α → ExceptT ε (StateM σ) β}
    (hfirst : FailsOnly kind first) (hnext : ∀ a, FailsOnly kind (next a)) :
    FailsOnly kind (first >>= next) := by
  intro s fault hfault
  rw [run_bind] at hfault
  rcases hresult : first.run s with ⟨stopped | a, t⟩
  · rw [hresult] at hfault
    cases hfault
    exact hfirst s fault (by rw [hresult])
  · rw [hresult] at hfault
    exact hnext a t fault hfault

end FailsOnly

end EventIntake.Stateful
