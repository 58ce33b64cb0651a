import TypstPress.Attempt

/-!
# The result of an attempt

What an attempt gives does not depend on the records it writes. The lemmas read the result off an
attempt that is put together from others.
-/

namespace TypstPress.Attempt

theorem result_andThen (x : Attempt α) (f : α → Attempt β) :
    (x.andThen f).result = x.result >>= fun a => (f a).result := by
  unfold andThen
  cases x.result <;> rfl

theorem result_bind (x : Attempt α) (f : α → Attempt β) :
    (x >>= f).result = x.result >>= fun a => (f a).result :=
  result_andThen x f

theorem result_bind_of_ok {x : Attempt α} {a : α} (h : x.result = .ok a) (f : α → Attempt β) :
    (x >>= f).result = (f a).result := by
  rw [result_bind, h]
  rfl

/-- An attempt that succeeds after another one follows a success. -/
theorem exists_of_bind_ok {x : Attempt α} {f : α → Attempt β} {b : β}
    (h : (x >>= f).result = .ok b) : ∃ a, x.result = .ok a ∧ (f a).result = .ok b := by
  rw [result_bind] at h
  cases hx : x.result with
  | error e =>
      rw [hx] at h
      cases h
  | ok a =>
      rw [hx] at h
      exact ⟨a, rfl, h⟩

theorem result_mapFailure (f : Failure → Failure) (x : Attempt α) :
    (x.mapFailure f).result = x.result.mapError f := by
  rw [mapFailure]
  cases x.result <;> rfl

theorem result_mapFailure_of_ok {x : Attempt α} {a : α} (h : x.result = .ok a)
    (f : Failure → Failure) : (x.mapFailure f).result = .ok a := by
  rw [mapFailure, h]

end TypstPress.Attempt
