import RowBinding.Proofs.PlanRuns
/-!
# How far a run comes

A run takes its operations one after the other and stops at the first one that fails.  **A list is read, or folded, up
to the element that fails** (`RowReader.mapM_eq_error_iff`, `RowReader.foldlM_eq_error_iff`), and whatever operation a
run comes to, what it finds there stood in the row at first or is a NULL of no type (`RowRoutine.ComesTo.thins`).
-/
namespace RowBinding

variable {α β γ : Type}

/-! ## Where readers fail -/

namespace RowReader

variable {values : List Value} {e : Failure}

theorem bind_eq_error_iff {m : RowReader β} {k : β → RowReader γ} : (m >>= k) values = .error e ↔
    m values = .error e ∨ ∃ b rest, m values = .ok (b, rest) ∧ k b rest = .error e := by
  have hm : (m >>= k) values = (m values >>= fun x => k x.1 x.2) := rfl
  rw [hm, Result.bind_eq_error_iff, Prod.exists]

theorem lift_eq_error_iff {r : Result β} : (liftM r : RowReader β) values = .error e ↔ r = .error e := by
  have hlift : (liftM r : RowReader β) values = r >>= fun b => .ok (b, values) := rfl
  rw [hlift, Result.bind_eq_error_iff]
  simp

theorem lift_eq_ok_iff {r : Result β} {b : β} {rest : List Value} :
    (liftM r : RowReader β) values = .ok (b, rest) ↔ r = .ok b ∧ rest = values := by
  have hlift : (liftM r : RowReader β) values = r.map fun b => (b, values) := by cases r <;> rfl
  simp [hlift, Result.map_eq_ok_iff, @eq_comm _ values]

/-- A list is read up to the first element that fails. -/
theorem mapM_eq_error_iff {m : β → RowReader γ} : ∀ {bs : List β} {values : List Value},
    bs.mapM m values = .error e ↔ ∃ before b after cs rest, bs = before ++ b :: after ∧
      before.mapM m values = .ok (cs, rest) ∧ m b rest = .error e
  | [], values => by
    constructor
    · intro h
      cases h
    · rintro ⟨before, b, after, cs, rest, hbs, -⟩
      cases before <;> cases hbs
  | b :: bs, values => by
    rw [List.mapM_cons, bind_eq_error_iff]
    constructor
    · rintro (h | ⟨c, between, hc, h⟩)
      · exact ⟨[], b, bs, [], values, rfl, rfl, h⟩
      · rcases bind_eq_error_iff.1 h with h | ⟨_, _, -, h⟩
        · obtain ⟨before, d, after, cs, rest, rfl, hcs, hd⟩ := mapM_eq_error_iff.1 h
          refine ⟨b :: before, d, after, c :: cs, rest, rfl, ?_, hd⟩
          rw [List.mapM_cons]
          exact (bind_of_ok hc).trans (bind_of_ok hcs)
        · cases h
    · rintro ⟨before, d, after, cs, rest, hbs, hcs, hd⟩
      cases before with
      | nil =>
        obtain ⟨rfl, rfl⟩ := List.cons.inj hbs
        obtain ⟨rfl, rfl⟩ := Prod.mk.inj (Except.ok.inj hcs)
        exact .inl hd
      | cons first before =>
        obtain ⟨rfl, rfl⟩ := List.cons.inj hbs
        rw [List.mapM_cons] at hcs
        obtain ⟨c, between, hc, hcs⟩ := bind_eq_ok hcs
        obtain ⟨ds, last, hds, hdone⟩ := bind_eq_ok hcs
        obtain ⟨-, rfl⟩ := Prod.mk.inj (Except.ok.inj hdone)
        have hrest : (before ++ d :: after).mapM m between = .error e :=
          mapM_eq_error_iff.2 ⟨before, d, after, ds, last, rfl, hds, hd⟩
        exact .inr ⟨c, between, hc, bind_eq_error_iff.2 (.inl hrest)⟩

/-- A fold goes on up to the first element that fails. -/
theorem foldlM_eq_error_iff {m : γ → β → RowReader γ} : ∀ {bs : List β} {x : γ} {values : List Value},
    bs.foldlM m x values = .error e ↔ ∃ before b after y rest, bs = before ++ b :: after ∧
      before.foldlM m x values = .ok (y, rest) ∧ m y b rest = .error e
  | [], x, values => by
    constructor
    · intro h
      cases h
    · rintro ⟨before, b, after, y, rest, hbs, -⟩
      cases before <;> cases hbs
  | b :: bs, x, values => by
    rw [List.foldlM_cons, bind_eq_error_iff]
    constructor
    · rintro (h | ⟨y, rest, hy, h⟩)
      · exact ⟨[], b, bs, x, values, rfl, rfl, h⟩
      · obtain ⟨before, c, after, z, last, rfl, hz, hc⟩ := foldlM_eq_error_iff.1 h
        refine ⟨b :: before, c, after, z, last, rfl, ?_, hc⟩
        rw [List.foldlM_cons]
        exact (bind_of_ok hy).trans hz
    · rintro ⟨before, c, after, z, last, hbs, hz, hc⟩
      cases before with
      | nil =>
        obtain ⟨rfl, rfl⟩ := List.cons.inj hbs
        obtain ⟨rfl, rfl⟩ := Prod.mk.inj (Except.ok.inj hz)
        exact .inl hc
      | cons first before =>
        obtain ⟨rfl, rfl⟩ := List.cons.inj hbs
        rw [List.foldlM_cons] at hz
        obtain ⟨y, rest, hy, hz⟩ := bind_eq_ok hz
        exact .inr ⟨y, rest, hy, foldlM_eq_error_iff.2 ⟨before, c, after, z, last, rfl, hz, hc⟩⟩

end RowReader

/-! ## What a run finds -/

namespace RowRoutine

variable {r : RowRoutine α} {op : Operation} {values rest : List Value}

/-- A run comes to an operation, with so much of the row left. -/
inductive ComesTo (r : RowRoutine α) (values : List Value) : Operation → List Value → Prop
  | result {op : Operation} {ops : List Operation} {ofValue : Value → Result α} (hbody : r.body = .scalar ofValue)
    (hops : r.plan.operations = op :: ops) : ComesTo r values op values
  | argument {name : String} {build : Args → Result α} {setters : List (Option (α → Value → Result α))}
    {before after : List Operation} {op : Operation} {vs rest : List Value}
    (hbody : r.body = .entity name build setters) (hops : r.plan.arguments = before ++ op :: after)
    (hgather : gather r.fingerprint.target before values = .ok (vs, rest)) : ComesTo r values op rest
  | member {name : String} {build : Args → Result α} {setters : List (Option (α → Value → Result α))}
    {before after : List Operation} {op : Operation} {vs between rest : List Value} {built object : α}
    {set : α → Value → Result α} (hbody : r.body = .entity name build setters)
    (hgather : gather r.fingerprint.target r.plan.arguments values = .ok (vs, between))
    (hbuild : build ⟨vs⟩ = .ok built) (hops : r.plan.assignments = before ++ op :: after)
    (hassign : before.foldlM (assign r.fingerprint.target setters) built between = .ok (object, rest))
    (hset : setter? setters op = some set) : ComesTo r values op rest

theorem comesTo_scalar_iff {ofValue : Value → Result α} (hbody : r.body = .scalar ofValue) :
    r.ComesTo values op rest ↔ (∃ ops, r.plan.operations = op :: ops) ∧ values = rest := by
  constructor
  · intro h
    cases h with
    | result _ hops => exact ⟨⟨_, hops⟩, rfl⟩
    | argument hentity => rw [hbody] at hentity; cases hentity
    | member hentity => rw [hbody] at hentity; cases hentity
  · rintro ⟨⟨ops, hops⟩, rfl⟩
    exact .result hbody hops

/-- The second row has what stood in the first, or NULLs of no type in its place. -/
def Thins (values rest : List Value) : Prop := ∀ (i : Nat) v, rest[i]? = some v → v = .untyped ∨ values[i]? = some v

theorem run_thins (op : Operation) : RowReader.AgreeOn (Thins values) op.run op.run := by
  refine fun left hleft => ⟨rfl, fun v rest h => ?_⟩
  rw [Operation.run_eq] at h
  obtain ⟨w, -, heq⟩ := Result.map_eq_ok_iff.1 h
  obtain ⟨-, rfl⟩ := Prod.mk.inj heq
  intro i u hu
  by_cases hi : op.source = i
  · rw [hi, List.getElem?_set_self'] at hu
    cases hleft' : left[i]? with
    | none => simp [hleft'] at hu
    | some w => exact .inl (by simpa [hleft'] using hu.symm)
  · rw [List.getElem?_set_ne hi] at hu
    exact hleft i u hu

theorem related_thins (target : TypeName) (op : Operation) :
    op.RelatedBy (RowReader.AgreeOn (Thins values)) target op :=
  ⟨rfl, fun use => (run_thins op).reading target op.name use⟩

theorem gather_thins (target : TypeName) (ops : List Operation) :
    RowReader.AgreeOn (Thins values) (gather target ops) (gather target ops) := by
  refine RowReader.composes_agreeOn.mapM (R := Eq) (List.forall₂_same.2 fun op _ => rfl) ?_
  rintro op _ rfl
  exact (related_thins target op).atField pure

theorem foldlM_assign_thins (target : TypeName) (setters : List (Option (α → Value → Result α))) (object : α)
    (ops : List Operation) : RowReader.AgreeOn (Thins values) (ops.foldlM (assign target setters) object)
      (ops.foldlM (assign target setters) object) := by
  refine RowReader.composes_agreeOn.foldlM (R := Eq) (List.forall₂_same.2 fun op _ => rfl) ?_ object
  rintro built op _ rfl
  exact RowReader.composes_agreeOn.assign (related_thins target op) setters built

theorem ComesTo.mem (h : r.ComesTo values op rest) : op ∈ r.plan.operations := by
  cases h with
  | result _ hops => exact hops ▸ List.mem_cons_self
  | argument _ hops => exact List.mem_of_mem_filter (hops ▸ List.mem_append_cons_self)
  | member _ _ _ hops => exact List.mem_of_mem_filter (hops ▸ List.mem_append_cons_self)

theorem ComesTo.thins (h : r.ComesTo values op rest) : Thins values rest := by
  have hwhole : Thins values values := fun i v hv => .inr hv
  cases h with
  | result => exact hwhole
  | argument _ _ h => exact (gather_thins _ _ values hwhole).2 _ _ h
  | member _ h _ _ hassign =>
    have hbetween := (gather_thins _ _ values hwhole).2 _ _ h
    exact (foldlM_assign_thins _ _ _ _ _ hbetween).2 _ _ hassign

end RowRoutine

end RowBinding
