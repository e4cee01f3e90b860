namespace PacketDivert

/-- A computation that may fail. The state it had reached is kept when it does. -/
def Attempt (ε σ α : Type) : Type := σ → Except ε α × σ

namespace Attempt

variable {ε ε' σ α β : Type}

instance : Monad (Attempt ε σ) where
  pure value state := (.ok value, state)
  bind first next state :=
    match first state with
    | (.ok value, reached) => next value reached
    | (.error fault, reached) => (.error fault, reached)

def fail (fault : ε) : Attempt ε σ α := fun state => (.error fault, state)

def ofExcept (result : Except ε α) : Attempt ε σ α := fun state => (result, state)

/-- Runs a computation for its effect on the state, whether it fails or not. -/
def regardless (attempt : Attempt ε σ α) : Attempt ε σ Unit := fun state =>
  (.ok (), (attempt state).2)

def mapError (change : ε → ε') (attempt : Attempt ε σ α) : Attempt ε' σ α := fun state =>
  match attempt state with
  | (.ok value, reached) => (.ok value, reached)
  | (.error fault, reached) => (.error (change fault), reached)

@[simp] theorem pure_run (value : α) (state : σ) :
    (pure value : Attempt ε σ α) state = (.ok value, state) := rfl

@[simp] theorem bind_run (first : Attempt ε σ α) (next : α → Attempt ε σ β) (state : σ) :
    (first >>= next) state =
      match first state with
      | (.ok value, reached) => next value reached
      | (.error fault, reached) => (.error fault, reached) := rfl

@[simp] theorem fail_run (fault : ε) (state : σ) :
    (fail fault : Attempt ε σ α) state = (.error fault, state) := rfl

@[simp] theorem ofExcept_run (result : Except ε α) (state : σ) :
    (ofExcept result : Attempt ε σ α) state = (result, state) := rfl

@[simp] theorem regardless_run (attempt : Attempt ε σ α) (state : σ) :
    attempt.regardless state = (.ok (), (attempt state).2) := rfl

instance : LawfulMonad (Attempt ε σ) := by
  refine LawfulMonad.mk' _ ?_ ?_ ?_
  · intro α attempt
    funext state
    change (attempt >>= fun value => pure value) state = attempt state
    rw [bind_run]
    rcases attempt state with ⟨_ | _, reached⟩ <;> rfl
  · intro α β value next
    rfl
  · intro α β γ attempt next last
    funext state
    simp only [bind_run]
    rcases attempt state with ⟨_ | _, reached⟩ <;> rfl

theorem run_of_isOk {attempt : Attempt ε σ Unit} {state : σ}
    (succeeded : (attempt state).1.isOk = true) :
    attempt state = (.ok (), (attempt state).2) := by
  rcases ran : attempt state with ⟨_ | _, after⟩
  · rw [ran] at succeeded
    exact nomatch succeeded
  · rfl

theorem mapError_run (change : ε → ε') (attempt : Attempt ε σ α) (state : σ) :
    attempt.mapError change state = ((attempt state).1.mapError change, (attempt state).2) := by
  unfold mapError
  rcases attempt state with ⟨_ | _, reached⟩ <;> rfl

end Attempt

end PacketDivert
