import Mathlib.Data.List.Basic

namespace Microscope.Data

/-! # Checks that go through

What an accepted sequence of checks has accepted.
-/

variable {α β ε : Type}

theorem bind_accepts {first : Except ε α} {next : α → Except ε β} {result : β} :
    (first >>= next) = .ok result ↔ ∃ value, first = .ok value ∧ next value = .ok result := by
  cases first with
  | error failure => simp [bind, Except.bind]
  | ok value => simp [bind, Except.bind]

theorem forM_accepts {elements : List α} {check : α → Except ε Unit} :
    elements.forM check = .ok () ↔ ∀ element ∈ elements, check element = .ok () := by
  induction elements with
  | nil => simp [List.forM_nil, pure, Except.pure]
  | cons element rest ih =>
      change (check element >>= fun _ => rest.forM check) = .ok () ↔ _
      rw [bind_accepts, List.forall_mem_cons]
      constructor
      · rintro ⟨⟨⟩, first, others⟩
        exact ⟨first, ih.mp others⟩
      · rintro ⟨first, others⟩
        exact ⟨(), first, ih.mpr others⟩

/-- The results are those of the elements. -/
theorem mem_mapM_accepts {elements : List α} {check : α → Except ε β} {results : List β} {result : β}
    (accepted : elements.mapM check = .ok results) :
    result ∈ results ↔ ∃ element ∈ elements, check element = .ok result := by
  induction elements generalizing results with
  | nil =>
      cases accepted
      simp
  | cons element rest ih =>
      rw [List.mapM_cons] at accepted
      obtain ⟨first, found, others⟩ := bind_accepts.mp accepted
      obtain ⟨more, rendered, same⟩ := bind_accepts.mp others
      cases same
      rw [List.mem_cons, ih rendered, List.exists_mem_cons_iff, found, Except.ok.injEq, eq_comm]

end Microscope.Data
