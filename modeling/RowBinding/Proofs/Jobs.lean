import RowBinding.Proofs.AlikeResults
import RowBinding.Mapper.Basic
/-!
# What a job does

A job maps the state with its log to a result and the state it leaves behind.  **A job mirrors a plain result when it
keeps an invariant of the state and comes to the same, up to the case of labels**; what follows one another mirrors what
follows one another (`Mirrors.bind`), so a job is compared with a computation that has no state step by step.
-/
namespace RowBinding

namespace Job

variable {σ τ β γ δ ε : Type}

/-- The result of a job and what it leaves behind. -/
def perform (job : Job σ β) (j : Journaled σ) : Result β × Journaled σ := (ExceptT.run job).run j

theorem ext {job job' : Job σ β} (h : ∀ j, job.perform j = job'.perform j) : job = job' := funext h

theorem perform_bind (job : Job σ β) (next : β → Job σ γ) (j : Journaled σ) : (job >>= next).perform j =
    match job.perform j with
    | (.ok b, i) => (next b).perform i
    | (.error e, i) => (.error e, i) := by
  unfold perform
  simp only [bind, ExceptT.bind, ExceptT.mk, ExceptT.run, StateT.run, StateT.bind]
  generalize job j = ran
  obtain ⟨r, i⟩ := ran
  cases r <;> rfl

theorem perform_returning (job : Job σ β) (f : β → γ) (j : Journaled σ) :
    (do return f (← job) : Job σ γ).perform j = ((job.perform j).1.map f, (job.perform j).2) := by
  rw [perform_bind]
  generalize job.perform j = ran
  obtain ⟨result, i⟩ := ran
  cases result <;> rfl

theorem perform_get (j : Journaled σ) : (get : Job σ σ).perform j = (.ok j.state, j) := rfl

theorem perform_set (s : σ) (j : Journaled σ) : (set s).perform j = (.ok (), { j with state := s }) := rfl

theorem perform_report (level : LogLevel) (message : String) (j : Journaled σ) :
    (report level message).perform j = (.ok (), { j with log := j.log ++ [⟨level, message⟩] }) := rfl

theorem perform_ofResult (r : Result β) (j : Journaled σ) : (ofResult r : Job σ β).perform j = (r, j) := by
  cases r <;> rfl

theorem perform_onPart (part : σ → τ) (replace : τ → σ → σ) (job : Job τ β) (j : Journaled σ) :
    (onPart part replace job).perform j = ((job.perform ⟨part j.state, j.log⟩).1,
      ⟨replace (job.perform ⟨part j.state, j.log⟩).2.state j.state, (job.perform ⟨part j.state, j.log⟩).2.log⟩) := rfl

theorem perform_tryCatch (job : Job σ β) (handle : Failure → Job σ β) (j : Journaled σ) :
    (tryCatch job handle).perform j =
    match job.perform j with
    | (.ok b, i) => (.ok b, i)
    | (.error e, i) => (handle e).perform i := by
  unfold perform
  simp only [tryCatch, tryCatchThe, MonadExceptOf.tryCatch, ExceptT.tryCatch, ExceptT.mk, ExceptT.run, bind,
    StateT.run, StateT.bind]
  generalize job j = ran
  obtain ⟨r, i⟩ := ran
  cases r <;> rfl

/-! ## Mirroring -/

/-- The job keeps an invariant of the state and comes to the same as a plain result, the values being related. -/
def Mirrors (I : σ → Prop) (R : β → γ → Prop) (r : Result β) (job : Job σ γ) : Prop :=
  ∀ j, I j.state → I (job.perform j).2.state ∧ Result.Alike R r (job.perform j).1

variable {I : σ → Prop} {R : β → γ → Prop}

theorem Mirrors.of_eq {r : Result β} {job : Job σ β}
    (h : ∀ j, I j.state → I (job.perform j).2.state ∧ (job.perform j).1 = r) : Mirrors I Eq r job := by
  intro j hj
  obtain ⟨hi, heq⟩ := h j hj
  rw [heq]
  exact ⟨hi, Result.alike_refl (fun _ => rfl) r⟩

theorem Mirrors.pure {b : β} {c : γ} (h : R b c) : Mirrors I R (.ok b) (Pure.pure c) := fun _ hj => ⟨hj, h⟩

theorem Mirrors.ofResult {r : Result β} {s : Result γ} (h : Result.Alike R r s) : Mirrors I R r (ofResult s) := by
  intro j hj
  rw [perform_ofResult]
  exact ⟨hj, h⟩

theorem Mirrors.mono {S : β → γ → Prop} (hRS : ∀ b c, R b c → S b c) {r : Result β} {job : Job σ γ}
    (h : Mirrors I R r job) : Mirrors I S r job := fun j hj => ⟨(h j hj).1, (h j hj).2.mono hRS⟩

/-- The value that is mirrored is that of the result. -/
theorem Mirrors.knowing {r : Result β} {job : Job σ γ} (h : Mirrors I R r job) :
    Mirrors I (fun b c => r = .ok b ∧ R b c) r job := by
  intro j hj
  obtain ⟨hi, hr⟩ := h j hj
  refine ⟨hi, ?_⟩
  generalize (job.perform j).1 = s at hr
  match r, s with
  | .ok b, .ok c => exact ⟨rfl, hr⟩
  | .error e, .error f => exact hr

theorem Mirrors.get_bind {r : Result β} {next : σ → Job σ γ} (h : ∀ s, I s → Mirrors I R r (next s)) :
    Mirrors I R r (get >>= next) := by
  intro j hj
  rw [perform_bind, perform_get]
  exact h j.state hj j hj

/-- **What follows one another mirrors what follows one another.** -/
theorem Mirrors.bind {S : δ → ε → Prop} {r : Result β} {job : Job σ γ} {f : β → Result δ} {next : γ → Job σ ε}
    (h : Mirrors I R r job) (hnext : ∀ b c, R b c → Mirrors I S (f b) (next c)) :
    Mirrors I S (r >>= f) (job >>= next) := by
  intro j hj
  obtain ⟨hi, hr⟩ := h j hj
  rw [perform_bind]
  generalize job.perform j = ran at hi hr
  match r, ran with
  | .ok b, (.ok c, i) => exact hnext b c hr i hi
  | .error e, (.error f, i) => exact ⟨hi, hr⟩

theorem Mirrors.returning {S : β → ε → Prop} {g : γ → ε} {r : Result β} {job : Job σ γ} (h : Mirrors I R r job)
    (hg : ∀ b c, R b c → S b (g c)) : Mirrors I S r (do return g (← job)) := by
  intro j hj
  obtain ⟨hi, hr⟩ := h j hj
  rw [perform_bind]
  generalize job.perform j = ran at hi hr
  match r, ran with
  | .ok b, (.ok c, i) => exact ⟨hi, hg b c hr⟩
  | .error e, (.error f, i) => exact ⟨hi, hr⟩

theorem Mirrors.map {S : δ → ε → Prop} {f : β → δ} {g : γ → ε} {r : Result β} {job : Job σ γ} (h : Mirrors I R r job)
    (hfg : ∀ b c, R b c → S (f b) (g c)) : Mirrors I S (r.map f) (do return g (← job)) := by
  have hg := h.returning (S := fun b d => S (f b) d) (g := g) hfg
  exact fun j hj => ⟨(hg j hj).1, (hg j hj).2.map_left⟩

/-! ## Side by side -/

/-- Two jobs end together: with related values in related states, or with one failure. -/
inductive EndTogether (Q : β → γ → σ → τ → Prop) (E : σ → τ → Prop) :
    Result β × Journaled σ → Result γ × Journaled τ → Prop
  | ok {b : β} {c : γ} {i : Journaled σ} {j : Journaled τ} (h : Q b c i.state j.state) :
    EndTogether Q E (.ok b, i) (.ok c, j)
  | error {e : Failure} {i : Journaled σ} {j : Journaled τ} (h : E i.state j.state) :
    EndTogether Q E (.error e, i) (.error e, j)

theorem EndTogether.same {E : σ → τ → Prop} {ran : Result β × Journaled σ} {ran' : Result β × Journaled τ}
    (h : EndTogether (fun b c s t => b = c ∧ E s t) E ran ran') :
    ran.1 = ran'.1 ∧ E ran.2.state ran'.2.state := by
  cases h with
  | ok h => exact ⟨congrArg _ h.1, h.2⟩
  | error h => exact ⟨rfl, h⟩

/-- Two jobs that start in related states end together. -/
def Together (P E : σ → τ → Prop) (Q : β → γ → σ → τ → Prop) (job : Job σ β) (job' : Job τ γ) : Prop :=
  ∀ i j, P i.state j.state → EndTogether Q E (job.perform i) (job'.perform j)

variable {P E : σ → τ → Prop} {Q : β → γ → σ → τ → Prop}

theorem Together.pure {b : β} {c : γ} (h : ∀ s t, P s t → Q b c s t) :
    Together P E Q (Pure.pure b) (Pure.pure c) := fun _ _ hij => .ok (h _ _ hij)

theorem Together.bind {S : δ → ε → σ → τ → Prop} {job : Job σ β} {job' : Job τ γ} {next : β → Job σ δ}
    {next' : γ → Job τ ε} (h : Together P E Q job job') (hnext : ∀ b c, Together (Q b c) E S (next b) (next' c)) :
    Together P E S (job >>= next) (job' >>= next') := by
  intro i j hij
  rw [perform_bind, perform_bind]
  have hend := h i j hij
  generalize job.perform i = ran at hend
  generalize job'.perform j = ran' at hend
  cases hend with
  | ok h => exact hnext _ _ _ _ h
  | error h => exact .error h

theorem Together.returning {Q' : δ → γ → σ → τ → Prop} {f : β → δ} {job : Job σ β} {job' : Job τ γ}
    (h : Together P E Q job job') (hQ : ∀ b c s t, Q b c s t → Q' (f b) c s t) :
    Together P E Q' (do return f (← job)) job' := by
  intro i j hij
  have hend := h i j hij
  rw [perform_bind]
  generalize job.perform i = ran at hend ⊢
  generalize job'.perform j = ran' at hend ⊢
  cases hend with
  | ok h => exact .ok (hQ _ _ _ _ h)
  | error h => exact .error h

theorem Together.mono_error {F : σ → τ → Prop} {job : Job σ β} {job' : Job τ γ} (h : Together P E Q job job')
    (hF : ∀ s t, E s t → F s t) : Together P F Q job job' := by
  intro i j hij
  have hend := h i j hij
  generalize job.perform i = ran at hend ⊢
  generalize job'.perform j = ran' at hend ⊢
  cases hend with
  | ok h => exact .ok h
  | error h => exact .error (hF _ _ h)

end Job

end RowBinding
