import Mathlib.Data.List.Forall2
/-!
# Results of several steps

A step behind another succeeds exactly if both do, and a traversal exactly if no item of it is
refused. The first refused item decides, and nothing behind it is looked at.
-/
namespace ExchangeWallet

variable {Fault OtherFault First Second : Type}

/-- One step behind another succeeds exactly if both do. -/
theorem bind_eq_ok_iff {first : Except Fault First} {next : First → Except Fault Second}
    {result : Second} :
    first >>= next = .ok result ↔ ∃ value, first = .ok value ∧ next value = .ok result := by
  cases first <;> simp [bind, Except.bind]

/-- A result with its value changed is a success exactly if it was one. -/
theorem map_eq_ok_iff {first : Except Fault First} {change : First → Second} {result : Second} :
    first.map change = .ok result ↔ ∃ value, first = .ok value ∧ change value = result := by
  cases first <;> simp [Except.map]

/-- A result with its fault changed is a success exactly if it was one. -/
theorem mapError_eq_ok_iff {first : Except Fault First} {change : Fault → OtherFault}
    {result : First} : first.mapError change = .ok result ↔ first = .ok result := by
  cases first <;> simp [Except.mapError]

/-- A traversal succeeds exactly if it does for each item. -/
theorem mapM_eq_ok_iff {make : First → Except Fault Second} {items : List First}
    {results : List Second} :
    items.mapM make = .ok results ↔
      List.Forall₂ (fun item result => make item = .ok result) items results := by
  induction items generalizing results with
  | nil => cases results <;> simp [pure, Except.pure]
  | cons item rest inductionHypothesis =>
    simp only [List.mapM_cons, bind_eq_ok_iff, inductionHypothesis, List.forall₂_cons_left_iff]
    constructor
    · rintro ⟨result, made, others, madeOthers, same⟩
      exact ⟨result, others, made, madeOthers, (Except.ok.inj same).symm⟩
    · rintro ⟨result, others, made, madeOthers, same⟩
      exact ⟨result, made, others, madeOthers, congrArg Except.ok same.symm⟩

/-- A traversal stops at the first item that is refused, and for the same reason. -/
theorem mapM_eq_error_iff {make : First → Except Fault Second} {items : List First}
    {fault : Fault} :
    items.mapM make = .error fault ↔
      ∃ front item rest, items = front ++ item :: rest ∧
        (∀ earlier ∈ front, ∃ result, make earlier = .ok result) ∧ make item = .error fault := by
  induction items with
  | nil => simp [pure, Except.pure]
  | cons first others inductionHypothesis =>
    rw [List.mapM_cons]
    cases made : make first with
    | error reason =>
      change Except.error reason = .error fault ↔ _
      rw [Except.error.injEq]
      constructor
      · rintro rfl
        exact ⟨[], first, others, rfl, by simp, made⟩
      · rintro ⟨front, item, rest, same, accepted, refused⟩
        cases front with
        | nil =>
          obtain ⟨rfl, -⟩ := List.cons_eq_cons.mp same
          exact Except.error.inj (made.symm.trans refused)
        | cons earlier front =>
          obtain ⟨rfl, -⟩ := List.cons_eq_cons.mp same
          obtain ⟨result, accepted⟩ := accepted first List.mem_cons_self
          cases made.symm.trans accepted
    | ok result =>
      have behind : ((Except.ok result : Except Fault Second) >>= fun made =>
          others.mapM make >>= fun results => pure (made :: results)) = .error fault ↔
            others.mapM make = .error fault := by
        cases others.mapM make <;> simp [bind, Except.bind, pure, Except.pure]
      rw [behind, inductionHypothesis]
      constructor
      · rintro ⟨front, item, rest, rfl, accepted, refused⟩
        refine ⟨first :: front, item, rest, rfl, ?_, refused⟩
        exact List.forall_mem_cons.mpr ⟨⟨result, made⟩, accepted⟩
      · rintro ⟨front, item, rest, same, accepted, refused⟩
        cases front with
        | nil =>
          obtain ⟨rfl, -⟩ := List.cons_eq_cons.mp same
          cases made.symm.trans refused
        | cons earlier front =>
          obtain ⟨rfl, rfl⟩ := List.cons_eq_cons.mp same
          exact ⟨front, item, rest, rfl, (List.forall_mem_cons.mp accepted).2, refused⟩

/-- A traversal succeeds exactly if no item is refused. -/
theorem exists_mapM_ok_iff {make : First → Except Fault Second} {items : List First} :
    (∃ results, items.mapM make = .ok results) ↔
      ∀ item ∈ items, ∃ result, make item = .ok result := by
  induction items with
  | nil => simp [pure, Except.pure]
  | cons item rest inductionHypothesis =>
    rw [List.forall_mem_cons, ← inductionHypothesis]
    simp only [mapM_eq_ok_iff, List.forall₂_cons_left_iff]
    constructor
    · rintro ⟨_, result, results, made, others, rfl⟩
      exact ⟨⟨result, made⟩, results, others⟩
    · rintro ⟨⟨result, made⟩, results, others⟩
      exact ⟨result :: results, result, results, made, others, rfl⟩

end ExchangeWallet
