import Latchkey.Session.Basic

/-!
# Running what may fail

What is done over the links of a scene and what a client does both change a state and may fail, and a
failure undoes nothing. The lemmas here say how the steps of such a run fit together, and when a relation
between the states before and after a run holds because it holds for every step. An invariant of the states is
carried through a run in the same way, together with the ways in which the run may fail.
-/

namespace Latchkey

theorem exists_of_mapError {ε δ α : Type} {rename : ε → δ} {result : Except ε α} {e : δ}
    (h : result.mapError rename = .error e) : ∃ cause, result = .error cause ∧ rename cause = e := by
  cases result with
  | ok a => cases h
  | error cause => exact ⟨cause, rfl, Except.error.inj h⟩

section Runs

variable {σ α β : Type} {m : ExceptT Failure (StateM σ) α} {f : α → ExceptT Failure (StateM σ) β}

theorem run_bind (m : ExceptT Failure (StateM σ) α) (f : α → ExceptT Failure (StateM σ) β) (s : σ) :
    (m >>= f) s =
      match m s with
      | (.ok a, s) => f a s
      | (.error e, s) => (.error e, s) := by
  simp only [bind, ExceptT.bind, ExceptT.mk, StateT.bind]
  rcases m s with ⟨_ | _, _⟩ <;> rfl

theorem run_bind_ok {s s' : σ} {a : α} (h : m s = (.ok a, s')) : (m >>= f) s = f a s' := by
  rw [run_bind, h]

theorem run_bind_error {s s' : σ} {e : Failure} (h : m s = (.error e, s')) :
    (m >>= f) s = (.error e, s') := by
  rw [run_bind, h]

theorem run_get (s : σ) : (get : ExceptT Failure (StateM σ) σ) s = (.ok s, s) := rfl

theorem run_get_bind (f : σ → ExceptT Failure (StateM σ) β) (s : σ) : (get >>= f) s = f s s :=
  run_bind_ok (run_get s)

theorem run_set (s s' : σ) : (set s' : ExceptT Failure (StateM σ) PUnit) s = (.ok ⟨⟩, s') := rfl

theorem run_modify (change : σ → σ) (s : σ) :
    (modify change : ExceptT Failure (StateM σ) PUnit) s = (.ok ⟨⟩, change s) := rfl

theorem run_lift (m : StateM σ α) (s : σ) :
    (liftM m : ExceptT Failure (StateM σ) α) s = (.ok (m s).1, (m s).2) := rfl

/-- The relation holds between the states before and after the run, however it ends. -/
def Keeps (R : σ → σ → Prop) (m : ExceptT Failure (StateM σ) α) : Prop := ∀ s, R s (m s).2

/-- The relation holds over no step at all, and over two runs if it holds over each. -/
structure Lasting (R : σ → σ → Prop) : Prop where
  refl (s : σ) : R s s
  trans {s s' s'' : σ} : R s s' → R s' s'' → R s s''

namespace Lasting

variable {R : σ → σ → Prop}

theorem pure (hR : Lasting R) (a : α) : Keeps R (Pure.pure a : ExceptT Failure (StateM σ) α) :=
  fun s => hR.refl s

theorem throw (hR : Lasting R) (e : Failure) :
    Keeps R (MonadExcept.throw e : ExceptT Failure (StateM σ) α) :=
  fun s => hR.refl s

theorem get (hR : Lasting R) : Keeps R (MonadState.get : ExceptT Failure (StateM σ) σ) :=
  fun s => hR.refl s

theorem bind (hR : Lasting R) (hm : Keeps R m) (hf : ∀ a, Keeps R (f a)) : Keeps R (m >>= f) := by
  intro s
  have h := hm s
  rcases hrun : m s with ⟨e | a, s'⟩
  · rw [hrun] at h
    rw [run_bind_error hrun]
    exact h
  · rw [hrun] at h
    rw [run_bind_ok hrun]
    exact hR.trans h (hf a s')

theorem foldl (hR : Lasting R) {runs : List (ExceptT Failure (StateM σ) α)}
    (h : ∀ run ∈ runs, Keeps R run) (s : σ) : R s (runs.foldl (fun s run => (run s).2) s) := by
  induction runs generalizing s with
  | nil => exact hR.refl s
  | cons run runs ih =>
    rw [List.forall_mem_cons] at h
    exact hR.trans (h.1 s) (ih h.2 (run s).2)

end Lasting

/-- Begun where `I` holds, the run ends where it holds, and it fails only in the ways that `P` names. -/
def Confined (I : σ → Prop) (P : Failure → Prop) (m : ExceptT Failure (StateM σ) α) : Prop :=
  ∀ s, I s → I (m s).2 ∧ ∀ e, (m s).1 = .error e → P e

section Confining

variable {I : σ → Prop} {P : Failure → Prop}

theorem confined_pure (a : α) : Confined I P (Pure.pure a : ExceptT Failure (StateM σ) α) :=
  fun _ hs => ⟨hs, nofun⟩

theorem confined_throw {e : Failure} (h : P e) :
    Confined I P (MonadExcept.throw e : ExceptT Failure (StateM σ) α) := by
  intro s hs
  refine ⟨hs, ?_⟩
  rintro _ ⟨⟩
  exact h

theorem confined_modify {change : σ → σ} (h : ∀ s, I s → I (change s)) :
    Confined I P (modify change : ExceptT Failure (StateM σ) PUnit) := fun s hs => ⟨h s hs, nofun⟩

theorem confined_lift {m : StateM σ α} (h : ∀ s, I s → I (m s).2) :
    Confined I P (liftM m : ExceptT Failure (StateM σ) α) := fun s hs => ⟨h s hs, nofun⟩

theorem Confined.bind (hm : Confined I P m) (hf : ∀ a, Confined I P (f a)) : Confined I P (m >>= f) := by
  intro s hs
  have h := hm s hs
  rcases hrun : m s with ⟨e | a, s'⟩
  · rw [hrun] at h
    rw [run_bind_error hrun]
    refine ⟨h.1, ?_⟩
    rintro _ ⟨⟩
    exact h.2 e rfl
  · rw [hrun] at h
    rw [run_bind_ok hrun]
    exact hf a s' h.1

theorem Confined.get_bind {f : σ → ExceptT Failure (StateM σ) β} (h : ∀ s, I s → Confined I P (f s)) :
    Confined I P (get >>= f) := by
  intro s hs
  rw [run_get_bind]
  exact h s hs s hs

end Confining

end Runs

namespace Act

variable {α : Type} {R : Session → Session → Prop} {Q : Scene → Scene → Prop}

theorem run_onAir (r : Radio α) (s : Session) :
    onAir r s = ((r s.scene).1, { s with scene := (r s.scene).2 }) := rfl

theorem run_step (name : String) (act : Act α) (s : Session) :
    step name act s = ((act s).1.mapError (Failure.during name), (act s).2) := rfl

theorem run_settle (result : Except Failure α) (s : Session) : settle result s = (result, s) := rfl

theorem keeps_step (name : String) {act : Act α} (h : Keeps R act) : Keeps R (step name act) := h

theorem keeps_settle (hR : Lasting R) (result : Except Failure α) : Keeps R (settle result) :=
  fun s => hR.refl s

/-- What is noted of an attempt. -/
def failure? : Except Failure Unit → Option Failure
  | .ok () => none
  | .error e => some e

theorem failureOf_eq (act : Act Unit) (s : Session) :
    failureOf act s = (failure? (act s).1, (act s).2) := by
  simp only [failureOf, bind, StateT.bind, ExceptT.run]
  rcases act s with ⟨_ | _, _⟩ <;> rfl

theorem run_failureOf (act : Act Unit) (s : Session) :
    (failureOf act s).2 = (act s).2 := by
  rw [failureOf_eq]

theorem keeps_attempt {act : Act Unit} (h : Keeps R act) :
    Keeps R (liftM (failureOf act) : Act (Option Failure)) := by
  intro s
  rw [run_lift, run_failureOf]
  exact h s

end Act

end Latchkey
