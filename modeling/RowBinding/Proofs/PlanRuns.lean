import RowBinding.Proofs.DerivedEntities
import RowBinding.Proofs.AgreeingReaders
/-!
# Running a plan

An operation moves its value out of the row and leaves the rest of the row as it was.  So **operations with different
sources all find what stood in the row at first**: arguments are gathered as they are delivered (`gather_of_yields`), and
assignments give each member they go to its value and change no other member (`foldlM_assign`).
-/
namespace RowBinding

variable {α β γ : Type}

namespace Operation

/-- For what stands at its source the operation delivers this value. -/
def Yields (op : Operation) (values : List Value) (v : Value) : Prop :=
  ∃ w, values[op.source]? = some w ∧ op.deliver w = .ok v

variable {op : Operation} {values : List Value} {v : Value}

theorem Yields.run (h : op.Yields values v) : op.run values = .ok (v, values.set op.source .untyped) := by
  obtain ⟨w, hw, hv⟩ := h
  rw [run_of_getElem? hw, hv]
  rfl

/-- What an operation delivers depends on its own source alone. -/
theorem Yields.congr (h : op.Yields values v) {rest : List Value} (hrest : rest[op.source]? = values[op.source]?) :
    op.Yields rest v := by
  obtain ⟨w, hw, hv⟩ := h
  exact ⟨w, hrest.trans hw, hv⟩

/-- What an operation takes out of the row no operation with another source reads. -/
theorem getElem?_set_source {ops : List Operation} (h : op.source ∉ ops.map (·.source)) (values : List Value) :
    ∀ other ∈ ops, (values.set op.source .untyped)[other.source]? = values[other.source]? := by
  intro other hother
  exact List.getElem?_set_ne fun heq => h (List.mem_map.2 ⟨other, hother, heq.symm⟩)

end Operation

theorem RowReader.bind_of_ok {reader : RowReader β} {next : β → RowReader γ} {values rest : List Value} {b : β}
    (h : reader values = .ok (b, rest)) : (reader >>= next) values = next b rest := by
  show StateT.bind reader next values = _
  rw [StateT.bind, h]
  rfl

namespace RowRoutine

variable {target : TypeName} {op : Operation} {values : List Value} {v : Value}

theorem atField_of_yields {use : Value → Result β} {b : β} (h : op.Yields values v) (hb : use v = .ok b) :
    atField target op use values = .ok (b, values.set op.source .untyped) := by
  unfold atField
  rw [h.run]
  show Result.inField target op.name (do return (← use v, values.set op.source .untyped)) = _
  rw [hb]
  rfl

/-- **Operations with different sources are gathered as they deliver**, and what is no source stays in the row. -/
theorem gather_of_yields (target : TypeName) : ∀ {ops : List Operation} {vs values : List Value},
    List.Forall₂ (fun op v => op.Yields values v) ops vs → (ops.map (·.source)).Nodup →
      ∃ rest, gather target ops values = .ok (vs, rest) ∧ ∀ j, j ∉ ops.map (·.source) → rest[j]? = values[j]?
  | [], _, values, .nil, _ => ⟨values, rfl, fun _ _ => rfl⟩
  | op :: ops, v :: vs, values, .cons hv hvs, hnodup => by
    rw [List.map_cons, List.nodup_cons] at hnodup
    have htail : List.Forall₂ (fun other w => other.Yields (values.set op.source .untyped) w) ops vs :=
      ((List.forall₂_and_left ops vs).2 ⟨Operation.getElem?_set_source hnodup.1 values, hvs⟩).imp fun other w h =>
        h.2.congr h.1
    obtain ⟨rest, hrest, hkeep⟩ := gather_of_yields target htail hnodup.2
    refine ⟨rest, ?_, fun j hj => ?_⟩
    · rw [gather, List.mapM_cons]
      refine (RowReader.bind_of_ok (atField_of_yields hv rfl)).trans ?_
      exact (RowReader.bind_of_ok hrest).trans rfl
    · rw [List.map_cons, List.mem_cons, not_or] at hj
      rw [hkeep j hj.2, List.getElem?_set_ne (Ne.symm hj.1)]

/-! ## Assignments -/

section Assignments

variable {e : EntityDef α} {types : List NativeType} {I : α → Prop}

/-- The objects have the same value in the member at a position. -/
def Agree (e : EntityDef α) (a b : α) (i : Nat) : Prop := ∀ m, e.members[i]? = some m → m.get a = m.get b

/-- The operation assigns a member the value that an object has in it. -/
def Restores (e : EntityDef α) (object : α) (values : List Value) (op : Operation) : Prop :=
  ∃ i m put, op.destination = .member i ∧ e.members[i]? = some m ∧ m.set = some put ∧ op.Yields values (m.get object)

theorem Restores.congr {object : α} (h : Restores e object values op) {rest : List Value}
    (hrest : rest[op.source]? = values[op.source]?) : Restores e object rest op := by
  obtain ⟨i, m, put, hdestination, hm, hput, hyields⟩ := h
  exact ⟨i, m, put, hdestination, hm, hput, hyields.congr hrest⟩

theorem assign_of_restores (he : e.Derived types I) {object built : α} (hobject : I object) (hbuilt : I built)
    (h : Restores e object values op) : ∃ next,
      assign target (e.members.map (·.set)) built op values = .ok (next, values.set op.source .untyped) ∧ I next ∧
      (∀ i, op.destination = .member i → Agree e next object i) ∧
      ∀ i, Agree e built object i → Agree e next object i := by
  obtain ⟨i, m, put, hdestination, hm, hput, hyields⟩ := h
  obtain ⟨next, hnext, hI, hself, hothers⟩ := he.set hbuilt hm hput (he.get hobject hm)
  have hagree : Agree e next object i := by
    intro n hn
    obtain rfl : m = n := Option.some.inj (hm.symm.trans hn)
    exact hself
  refine ⟨next, ?_, hI, fun j hj => ?_, fun j hj => ?_⟩
  · rw [assign, setter?_of_member hdestination hm hput]
    exact atField_of_yields hyields hnext
  · obtain rfl := Slot.member.inj (hdestination.symm.trans hj)
    exact hagree
  · by_cases hji : j = i
    · rw [hji]
      exact hagree
    · intro n hn
      rw [hothers j n hn hji]
      exact hj n hn

/-- **Assignments with different sources restore the members they go to** and change no other member. -/
theorem foldlM_assign (target : TypeName) (he : e.Derived types I) {object : α} (hobject : I object) : ∀ (ops : List Operation)
    {values : List Value} {built : α}, I built → (∀ op ∈ ops, Restores e object values op) →
      (ops.map (·.source)).Nodup → ∃ final rest,
        (ops.foldlM (assign target (e.members.map (·.set))) built : RowReader α) values = .ok (final, rest) ∧ I final ∧
        (∀ op ∈ ops, ∀ i, op.destination = .member i → Agree e final object i) ∧
        ∀ i, Agree e built object i → Agree e final object i
  | [], values, built, hbuilt, _, _ => ⟨built, values, rfl, hbuilt, fun _ hop => (by cases hop), fun _ h => h⟩
  | op :: ops, values, built, hbuilt, hops, hnodup => by
    rw [List.map_cons, List.nodup_cons] at hnodup
    obtain ⟨next, hnext, hI, hself, hkeep⟩ := assign_of_restores he hobject hbuilt (hops op List.mem_cons_self)
    have htail : ∀ other ∈ ops, Restores e object (values.set op.source .untyped) other := fun other hother =>
      (hops other (List.mem_cons_of_mem op hother)).congr (Operation.getElem?_set_source hnodup.1 values other hother)
    obtain ⟨final, rest, hfinal, hIfinal, hassigned, hkept⟩ := foldlM_assign target he hobject ops hI htail hnodup.2
    refine ⟨final, rest, ?_, hIfinal, fun other hother i hi => ?_, fun i hi => hkept i (hkeep i hi)⟩
    · rw [List.foldlM_cons]
      exact (RowReader.bind_of_ok hnext).trans hfinal
    · rcases List.mem_cons.1 hother with rfl | hother
      · exact hkept i (hself i hi)
      · exact hassigned other hother i hi

end Assignments

end RowRoutine

end RowBinding
