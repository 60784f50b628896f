import RowBinding.Proofs.UnreachedBranches
/-!
# What compiling blames

Compiling fails where planning does: labels repeat, a scalar does not get its one field, nothing is bound.  **Every
failure of compiling tells what is wrong with the shape, or that it cannot be bound** (`RowRoutine.blames_of_compile`,
`ParameterRoutine.blames_of_compile`); a plan that has no body does not come up.
-/
namespace RowBinding

variable {α : Type}

/-- The failure tells what is wrong with a shape, or that it cannot be bound. -/
def Failure.Blames (e : Failure) (p : Fingerprint) : Prop :=
  (∃ fault, e = p.shapeMismatch fault) ∨ ∃ fault, e = p.bindingFailure fault

theorem Failure.Blames.isMapping {e : Failure} {p : Fingerprint} (h : e.Blames p) : e.isMapping = true := by
  rcases h with ⟨_, rfl⟩ | ⟨_, rfl⟩ <;> rfl

variable {schema : Schema α} {rules : Rules α} {p : Fingerprint} {e : Failure}

theorem Fingerprint.blames_of_checkUnique (h : p.checkUnique = .error e) : e.Blames p := by
  unfold checkUnique at h
  split at h
  · exact .inl ⟨_, (Except.error.inj h).symm⟩
  · cases h

theorem EntityDef.blames_of_analyzeRow {d : EntityDef α} (h : d.analyzeRow p = .error e) : e.Blames p := by
  unfold analyzeRow at h
  split at h
  · exact .inr ⟨_, (Except.error.inj h).symm⟩
  · dsimp only at h
    split at h
    · exact .inr ⟨_, (Except.error.inj h).symm⟩
    · cases h

theorem TypeDef.blames_of_analyzeRow {d : TypeDef α} (h : d.analyzeRow p = .error e) : e.Blames p := by
  rcases Result.bind_eq_error_iff.1 h with h | ⟨_, -, h⟩
  · exact Fingerprint.blames_of_checkUnique h
  · cases d with
    | entity d => exact EntityDef.blames_of_analyzeRow h
    | scalar s =>
      dsimp only at h
      split at h
      · cases h
      · exact .inl ⟨_, (Except.error.inj h).symm⟩

theorem TypeDef.blames_of_analyzeParameters {d source : TypeDef α} (h : d.analyzeParameters source p = .error e) :
    e.Blames p := by
  rcases Result.bind_eq_error_iff.1 h with h | ⟨_, -, h⟩
  · exact Fingerprint.blames_of_checkUnique h
  · cases d with
    | scalar s => exact .inl ⟨_, (Except.error.inj h).symm⟩
    | entity d =>
      dsimp only at h
      split at h
      · exact .inr ⟨_, (Except.error.inj h).symm⟩
      · cases h

theorem Plan.blames_of_ofRow {d : TypeDef α} (h : ofRow rules d p = .error e) : e.Blames p := by
  rcases Result.bind_eq_error_iff.1 h with h | ⟨_, -, h⟩
  · exact TypeDef.blames_of_analyzeRow h
  · cases h

/-- **Compiling a row routine blames the shape**: planning does, and every plan has a body. -/
theorem RowRoutine.blames_of_compile (h : compile schema rules p = .error e) : e.Blames p := by
  rcases Result.bind_eq_error_iff.1 h with h | ⟨plan, hplan, h⟩
  · exact Plan.blames_of_ofRow h
  · obtain ⟨body, hbody, -⟩ := bodyOf_of_wellFormed (Plan.wellFormed_ofRow hplan)
    rw [hbody] at h
    cases h

/-- **Compiling a parameter routine blames the shape.** -/
theorem ParameterRoutine.blames_of_compile (h : compile schema rules p = .error e) : e.Blames p := by
  rcases Result.bind_eq_error_iff.1 h with h | ⟨plan, hplan, h⟩
  · rcases Result.bind_eq_error_iff.1 h with h | ⟨bindings, -, h⟩
    · exact TypeDef.blames_of_analyzeParameters h
    · cases hd : schema p.target <;> (rw [hd] at h; cases h)
  · cases h

end RowBinding
