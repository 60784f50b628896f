import RowBinding.Proofs.RelatedLists
import RowBinding.Routine.Row
/-!
# Relations between readers

Two readers may be related in more than one way: they do the same on certain rows, they fail alike, or one of them
succeeds wherever the other does.  **A relation that holds of a reader that leaves the row alone, and of two readers put
together when it holds of each, holds of two runs as soon as it holds of their operations** (`Composes.produce`).
-/
namespace RowBinding

variable {α β γ : Type}

namespace RowReader

/-- The relation passes from the parts of two readers to the whole. -/
structure Composes (Q : ∀ {β : Type}, RowReader β → RowReader β → Prop) : Prop where
  /-- What does not look at the row is related to itself. -/
  lift {β : Type} (r : Result β) : Q (liftM r) (liftM r)
  bind {β γ : Type} {m n : RowReader β} {k l : β → RowReader γ} : Q m n → (∀ b, Q (k b) (l b)) → Q (m >>= k) (n >>= l)

variable {Q : ∀ {β : Type}, RowReader β → RowReader β → Prop}

theorem Composes.pure (hQ : Composes Q) (b : β) : Q (pure b) (pure b) := hQ.lift (.ok b)

theorem Composes.mapM (hQ : Composes Q) {R : β → β → Prop} {m n : β → RowReader γ} {bs cs : List β}
    (h : List.Forall₂ R bs cs) (hmn : ∀ b c, R b c → Q (m b) (n c)) : Q (bs.mapM m) (cs.mapM n) := by
  induction h with
  | nil => exact hQ.pure []
  | cons hbc _ ih =>
    rw [List.mapM_cons, List.mapM_cons]
    exact hQ.bind (hmn _ _ hbc) fun x => hQ.bind ih fun xs => hQ.pure (x :: xs)

theorem Composes.foldlM (hQ : Composes Q) {R : β → β → Prop} {m n : γ → β → RowReader γ} {bs cs : List β}
    (h : List.Forall₂ R bs cs) (hmn : ∀ x b c, R b c → Q (m x b) (n x c)) (x : γ) :
    Q (bs.foldlM m x) (cs.foldlM n x) := by
  induction h generalizing x with
  | nil => exact hQ.pure x
  | cons hbc _ ih =>
    rw [List.foldlM_cons, List.foldlM_cons]
    exact hQ.bind (hmn x _ _ hbc) ih

end RowReader

open RowReader RowRoutine

variable {Q : ∀ {β : Type}, RowReader β → RowReader β → Prop}

/-- The operations go to one place, and whatever is done there with their values, the relation holds. -/
structure Operation.RelatedBy (Q : ∀ {β : Type}, RowReader β → RowReader β → Prop) (target : TypeName)
    (a b : Operation) : Prop where
  destination : a.destination = b.destination
  atField {β : Type} (use : Value → Result β) : Q (atField target a use) (atField target b use)

namespace RowReader.Composes

theorem assign (hQ : Composes Q) {target : TypeName} {a b : Operation} (h : a.RelatedBy Q target b)
    (setters : List (Option (α → Value → Result α))) (object : α) :
    Q (assign target setters object a) (assign target setters object b) := by
  have hset : setter? setters a = setter? setters b := by rw [setter?, setter?, h.destination]
  unfold RowRoutine.assign
  rw [hset]
  cases setter? setters b with
  | none => exact hQ.pure object
  | some set => exact h.atField (set object)

/-- **What is related operation by operation is related run by run.**  Without operations there is nothing to build a
scalar of, so what the two runs say then has to be related by itself. -/
theorem produce (hQ : Composes Q) {a b : Plan} (htarget : a.fingerprint.target = b.fingerprint.target)
    (hempty : Q (throw (.emptyPlan a.fingerprint.text)) (throw (.emptyPlan b.fingerprint.text) : RowReader α))
    (hops : List.Forall₂ (Operation.RelatedBy Q b.fingerprint.target) a.operations b.operations) (body : RowBody α) :
    Q (produce a body) (produce b body) := by
  have hfilter : ∀ kind : Slot → Bool, List.Forall₂ (Operation.RelatedBy Q b.fingerprint.target)
      (a.operations.filter (kind ·.destination)) (b.operations.filter (kind ·.destination)) := by
    intro kind
    refine List.rel_filter (fun x y hxy => ?_) hops
    show kind x.destination = true ↔ kind y.destination = true
    rw [hxy.destination]
  unfold RowRoutine.produce
  rw [htarget]
  cases body with
  | scalar ofValue =>
    generalize a.operations = ops, b.operations = ops' at hops
    cases hops with
    | nil => exact hempty
    | cons hop _ => exact hop.atField ofValue
  | entity name build setters =>
    refine hQ.bind ?_ fun arguments => hQ.bind (hQ.lift _) fun object => ?_
    · exact hQ.mapM (hfilter Slot.isArgument) fun _ _ hop => hop.atField Pure.pure
    · exact hQ.foldlM (hfilter Slot.isMember) (fun built _ _ hop => hQ.assign hop setters built) object

end RowReader.Composes

end RowBinding
