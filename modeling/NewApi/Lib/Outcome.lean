/-!
# Outcomes of fallible computations

What a successful result in `Except` says about the computation it was made from.
-/

namespace NewApi.Lib

theorem map_eq_ok {α β ε : Type} {f : α → β} {x : Except ε α} {b : β} (h : x.map f = .ok b) :
    ∃ a, x = .ok a ∧ f a = b := by
  cases x with
  | error e => cases h
  | ok a => exact ⟨a, rfl, Except.ok.inj h⟩

theorem check_eq_ok {α ε : Type} {c : Prop} [Decidable c] {e : ε} {x : Except ε α} {b : α}
    (h : (if c then .error e else x) = .ok b) : ¬c ∧ x = .ok b := by
  split at h
  · cases h
  · exact ⟨‹_›, h⟩

end NewApi.Lib
