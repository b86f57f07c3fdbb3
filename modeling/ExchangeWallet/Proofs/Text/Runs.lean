import Mathlib
/-!
# Runs of characters

A run is a part of a text whose characters are all of one class, with a character of
another class behind it or the end of the text. A text has one such part at its
beginning, so that the run and the rest of the text can be told apart again. The
same is true of bytes.
-/
namespace ExchangeWallet.Text

variable {Character : Type} {inClass : Character → Bool} {run rest : List Character}

/-- The run at the beginning of a text is what is taken and dropped by its class. -/
theorem takeWhile_run (inside : ∀ character ∈ run, inClass character)
    (ends : ∀ character ∈ rest.head?, inClass character = false) :
    (run ++ rest).takeWhile inClass = run ∧ (run ++ rest).dropWhile inClass = rest := by
  rw [List.takeWhile_append_of_pos inside, List.dropWhile_append_of_pos inside]
  cases rest with
  | nil => simp
  | cons character others => simp [ends character (by simp)]

/-- Two runs of one class in front of the same text are the same run. -/
theorem run_unique {other otherRest : List Character}
    (inside : ∀ character ∈ run, inClass character)
    (ends : ∀ character ∈ rest.head?, inClass character = false)
    (otherInside : ∀ character ∈ other, inClass character)
    (otherEnds : ∀ character ∈ otherRest.head?, inClass character = false)
    (same : run ++ rest = other ++ otherRest) : run = other ∧ rest = otherRest := by
  obtain ⟨taken, dropped⟩ := takeWhile_run inside ends
  obtain ⟨otherTaken, otherDropped⟩ := takeWhile_run otherInside otherEnds
  rw [same] at taken dropped
  exact ⟨taken.symm.trans otherTaken, dropped.symm.trans otherDropped⟩

end ExchangeWallet.Text
