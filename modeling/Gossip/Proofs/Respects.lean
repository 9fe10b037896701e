/-! Computations that cannot tell states apart.

A computation `Respects` a relation on states if from related states it comes to the same result and
leaves related states behind (`Likewise`). The rules for `pure`, `>>=` and the rest carry this from
single steps to whole runs, and `Likewise.seen_eq` turns it into an equation for who looks at the
states through a view that shows the same of related ones.

Where the state makes no difference at all to what comes out, the computation `Gives` it. -/
namespace Gossip

variable {ε σ τ α β : Type} {R : σ → σ → Prop}

/-- The same value or the same error, and related states. -/
inductive Likewise (R : σ → σ → Prop) : EStateM.Result ε σ α → EStateM.Result ε σ α → Prop where
  | ok {value : α} {s t : σ} : R s t → Likewise R (.ok value s) (.ok value t)
  | error {error : ε} {s t : σ} : R s t → Likewise R (.error error s) (.error error t)

/-- From related states a computation comes to the same, in related states. -/
def Respects (R : σ → σ → Prop) (m : EStateM ε σ α) : Prop :=
  ∀ s t, R s t → Likewise R (m s) (m t)

theorem Respects.pure (value : α) : Respects R (pure value : EStateM ε σ α) :=
  fun _ _ h => .ok h

theorem Respects.throw (error : ε) : Respects R (throw error : EStateM ε σ α) :=
  fun _ _ h => .error h

theorem Respects.bind {m : EStateM ε σ α} {f : α → EStateM ε σ β} (hm : Respects R m)
    (hf : ∀ value, Respects R (f value)) : Respects R (m >>= f) := by
  intro s t h
  have hst := hm s t h
  simp only [Bind.bind, EStateM.bind]
  generalize m s = x, m t = y at hst
  cases hst with
  | ok h => exact hf _ _ _ h
  | error h => exact .error h

theorem Respects.map {m : EStateM ε σ α} (f : α → β) (hm : Respects R m) :
    Respects R (f <$> m) := by
  intro s t h
  have hst := hm s t h
  simp only [Functor.map, EStateM.map]
  generalize m s = x, m t = y at hst
  cases hst with
  | ok h => exact .ok h
  | error h => exact .error h

theorem Respects.ite {c : Prop} [Decidable c] {m n : EStateM ε σ α} (hm : Respects R m)
    (hn : Respects R n) : Respects R (if c then m else n) := by
  split
  · exact hm
  · exact hn

/-- Related states, next to the same value. -/
def Paired (R : σ → σ → Prop) (a b : τ × σ) : Prop := a.1 = b.1 ∧ R a.2 b.2

/-- The state that a computation leaves behind, whatever it comes to. -/
def endState : EStateM.Result ε σ α → σ
  | .ok _ s => s
  | .error _ s => s

theorem Likewise.endState {x y : EStateM.Result ε σ α} (h : Likewise R x y) :
    R (endState x) (endState y) := by
  cases h with
  | ok h => exact h
  | error h => exact h

/-- What is seen of a result by who looks at its state through a view. -/
def seen (view : σ → τ) : EStateM.Result ε σ α → Except ε α × τ
  | .ok value s => (.ok value, view s)
  | .error error s => (.error error, view s)

/-- Two views that show the same of related states show the same of the results. -/
theorem Likewise.seen_eq {view view' : σ → τ} {x y : EStateM.Result ε σ α} (h : Likewise R x y)
    (hview : ∀ s t, R s t → view s = view' t) : seen view x = seen view' y := by
  cases h with
  | ok h => simp only [seen, hview _ _ h]
  | error h => simp only [seen, hview _ _ h]

/-! ### Answers that do not depend on the state -/

/-- What a computation comes to, without the state that it leaves behind. -/
def answer : EStateM.Result ε σ α → Except ε α
  | .ok value _ => .ok value
  | .error error _ => .error error

/-- From every state the computation comes to this answer. -/
def Gives (m : EStateM ε σ α) (result : Except ε α) : Prop := ∀ s, answer (m s) = result

theorem gives_pure (value : α) : Gives (pure value : EStateM ε σ α) (.ok value) := fun _ => rfl

theorem Gives.ite {c : Prop} [Decidable c] {m n : EStateM ε σ α} {result : Except ε α}
    (hm : Gives m result) (hn : Gives n result) : Gives (if c then m else n) result := by
  split
  · exact hm
  · exact hn

theorem Gives.exists_ok {m : EStateM ε σ α} {value : α} (h : Gives m (.ok value)) (s : σ) :
    ∃ t, m s = .ok value t := by
  have hs := h s
  generalize m s = x at hs
  cases x with
  | ok found t =>
    cases hs
    exact ⟨t, rfl⟩
  | error error t => cases hs

theorem Gives.bind_ok {m : EStateM ε σ α} {f : α → EStateM ε σ β} {value : α}
    {result : Except ε β} (hm : Gives m (.ok value)) (hf : Gives (f value) result) :
    Gives (m >>= f) result := by
  intro s
  obtain ⟨t, ht⟩ := hm.exists_ok s
  simp only [Bind.bind, EStateM.bind, ht]
  exact hf t

theorem Gives.bind_error {m : EStateM ε σ α} {error : ε} (f : α → EStateM ε σ β)
    (hm : Gives m (.error error)) : Gives (m >>= f) (.error error) := by
  intro s
  have hs := hm s
  simp only [Bind.bind, EStateM.bind]
  generalize m s = x at hs
  cases x with
  | ok found t => cases hs
  | error found t =>
    cases hs
    rfl

end Gossip
