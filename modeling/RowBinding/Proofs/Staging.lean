import RowBinding.Proofs.Adaptation
import RowBinding.Proofs.AgreeingReaders
import RowBinding.Proofs.Labels
import RowBinding.Proofs.Requests
/-!
# Staged objects

A bulk table of objects has one column for each member, in some order, and in each row one value for each column.
**Where nothing is registered the column carries the store name of its member and the value is the member's, as it is
sent out** (`tableOf_staged`).
-/
namespace RowBinding

variable {α β γ : Type}

/-- The columns of a table are those of the members at these positions, under their store names and with the types in
which their values are sent out. -/
structure Staged (e : EntityDef α) (storage : StorageType) (fields : List Field) (order : List Nat) : Prop where
  perm : order.Perm (List.range e.members.length)
  length : fields.length = order.length
  column : ∀ {k i : Nat} {f : Field}, order[k]? = some i → fields[k]? = some f → ∃ m, e.members[i]? = some m ∧
    f.label = m.fieldName ∧ f.type = (Rules.written storage m.type).1

/-- The values of a row are those of the members at these positions, as they are sent out. -/
structure StagedValues (e : EntityDef α) (storage : StorageType) (object : α) (values : List Value)
    (order : List Nat) : Prop where
  length : values.length = order.length
  value : ∀ {k i : Nat} {w : Value}, order[k]? = some i → values[k]? = some w → ∃ m, e.members[i]? = some m ∧
    (Rules.written storage m.type).2.apply (m.get object) = .ok w

namespace Plan

variable {rules : Rules α} {e : EntityDef α} {p : Fingerprint}

/-- The operation reads the member at a position, under its store name and as it is sent out. -/
def Sends (e : EntityDef α) (storage : StorageType) (i : Nat) (op : Operation) : Prop :=
  ∃ m, e.members[i]? = some m ∧ op.source = i ∧ op.name = m.fieldName ∧
    op.type = (Rules.written storage m.type).1 ∧ op.coercion = (Rules.written storage m.type).2 ∧ op.handler = none

/-- There is one binding for each member. -/
theorem map_member_bindings (e : EntityDef α) (source : Option (EntityDef α)) (fields : List Field) :
    (e.members.zipIdx.map fun mi => mi.1.parameterBinding mi.2 source fields).map (·.member) =
      List.range e.members.length := by
  rw [List.map_map, List.range_eq_range', ← List.zipIdx_map_snd 0 e.members]
  rfl

theorem analyzeParameters_perm {source : TypeDef α} {bs : List ParameterBinding}
    (h : (TypeDef.entity e).analyzeParameters source p = .ok bs) :
    bs.Perm (e.members.zipIdx.map fun mi => mi.1.parameterBinding mi.2 (source.through? p) p.fields) := by
  obtain ⟨_, -, h⟩ := Result.bind_eq_ok_iff.1 h
  dsimp only at h
  split at h
  · cases h
  · rw [← Except.ok.inj h]
    exact List.mergeSort_perm _ _

/-- Without store fields the parameters come in the order of declaration. -/
theorem analyzeParameters_declared {source : TypeDef α} (hfields : p.fields = [])
    (hmembers : e.members.isEmpty = false) : (TypeDef.entity e).analyzeParameters source p =
      .ok (e.members.zipIdx.map fun mi => mi.1.parameterBinding mi.2 (source.through? p) []) := by
  have hunique : p.checkUnique = .ok () := by
    rw [Fingerprint.checkUnique_iff, hfields]
    exact List.nodup_nil
  have hsorted : (e.members.zipIdx.map fun mi => mi.1.parameterBinding mi.2 (source.through? p) []).mergeSort
      (ParameterBinding.before []) = e.members.zipIdx.map fun mi => mi.1.parameterBinding mi.2 (source.through? p) [] :=
    List.mergeSort_of_pairwise (List.pairwise_map.2 (List.pairwise_of_forall fun a b => rfl))
  rw [TypeDef.analyzeParameters, hunique]
  dsimp only [bind, Except.bind]
  rw [hfields, hsorted, if_neg]
  simpa using hmembers

theorem outboundOperation?_sends (hrules : rules.isEmpty = true)
    (hmode : rules.settings.mode = .plain ∨ p.fields = []) {source : TypeDef α} {b : ParameterBinding} {m : MemberDef α}
    (hm : e.members[b.member]? = some m) :
    ∃ op, outboundOperation? rules p e source b = some op ∧ Sends e rules.settings.enumStorage b.member op := by
  have hfield : rules.settings.mode = .plain ∨ (b.field.bind (p.fields[·]?)).map (·.type) = none := by
    refine hmode.imp_right fun hnil => ?_
    rw [hnil]
    cases b.field <;> rfl
  obtain ⟨htype, hcoercion, hhandler⟩ :=
    Rules.resolveOutbound_of_isEmpty hrules (outboundMembers p source m b) m.type hfield
  refine ⟨_, by rw [outboundOperation?, hm]; rfl, m, hm, rfl, rfl, htype, hcoercion, hhandler⟩

/-- The parameters of an entity read each member once. -/
theorem ofParameters_sends (hrules : rules.isEmpty = true) (hmode : rules.settings.mode = .plain ∨ p.fields = [])
    {source : TypeDef α} {plan : Plan} (h : ofParameters rules (.entity e) source p = .ok plan) :
    ∃ order, order.Perm (List.range e.members.length) ∧
      List.Forall₂ (Sends e rules.settings.enumStorage) order plan.operations := by
  obtain ⟨bs, hbs, h⟩ := Result.bind_eq_ok_iff.1 h
  have hperm := analyzeParameters_perm hbs
  rw [← Except.ok.inj h]
  refine ⟨bs.map (·.member), ?_, ?_⟩
  · rw [← map_member_bindings e (source.through? p) p.fields]
    exact hperm.map _
  · rw [List.forall₂_map_left_iff]
    refine forall₂_filterMap fun b hb => ?_
    obtain ⟨⟨m, i⟩, hmi, rfl⟩ := List.mem_map.1 (hperm.mem_iff.1 hb)
    have hm : e.members[i]? = some m := List.mem_zipIdx_iff_getElem?.1 hmi
    exact outboundOperation?_sends hrules hmode hm

end Plan

/-! ## The table -/

namespace ParameterRoutine

theorem parameters_sent {e : EntityDef α} {storage : StorageType} {target : TypeName} {object : α} {order : List Nat}
    {ops : List Operation} (h : List.Forall₂ (Plan.Sends e storage) order ops) {ps : List Parameter}
    (hps : parameters target (e.members.map (·.get)) object ops = .ok ps) :
    List.Forall₂ (fun i q => ∃ m, e.members[i]? = some m ∧
      (Rules.written storage m.type).2.apply (m.get object) = .ok q.value) order ps := by
  induction h generalizing ps with
  | nil =>
    obtain rfl := Except.ok.inj hps
    exact .nil
  | @cons i op _ _ hop _ ih =>
    obtain ⟨m, hm, hsource, -, -, hcoercion, hhandler⟩ := hop
    rw [parameters, List.getElem?_map, hsource, hm, Option.map_some] at hps
    obtain ⟨q, hq, hps⟩ := Result.bind_eq_ok_iff.1 hps
    obtain ⟨qs, hqs, hps⟩ := Result.bind_eq_ok_iff.1 hps
    rw [← Except.ok.inj hps]
    refine .cons ⟨m, hm, ?_⟩ (ih hqs)
    obtain ⟨v, hv, hq⟩ := Result.bind_eq_ok_iff.1 hq
    obtain rfl := Except.ok.inj hq
    have hv := Result.inField_eq_ok hv
    rw [adapt, hhandler, hcoercion] at hv
    exact hv

end ParameterRoutine

namespace Rules

variable {rules : Rules α} {e : EntityDef α}

theorem columns_staged {storage : StorageType} {order : List Nat} {plan : Plan} (store : List Field)
    (hperm : order.Perm (List.range e.members.length)) (h : List.Forall₂ (Plan.Sends e storage) order plan.operations) :
    Staged e storage (BulkTable.columns store plan) order := by
  refine ⟨hperm, ?_, ?_⟩
  · rw [BulkTable.columns, Field.arranged, List.length_map, List.length_zipIdx, List.length_map, h.length_eq]
  · intro k i f hi hf
    rw [BulkTable.columns, Field.arranged, List.getElem?_map, List.getElem?_zipIdx, List.getElem?_map] at hf
    cases hop : plan.operations[k]? with
    | none =>
      rw [hop] at hf
      cases hf
    | some op =>
      obtain ⟨m, hm, -, hname, htype, -⟩ := forall₂_getElem? h hi hop
      rw [hop] at hf
      obtain rfl := Option.some.inj hf
      refine ⟨m, hm, ?_, ?_⟩
      · rw [← hname, BulkTable.columnFor]
        cases store.find? (·.isNamed op.name) <;> rfl
      · rw [← htype, BulkTable.columnFor]
        cases store.find? (·.isNamed op.name) <;> rfl

/-- **A table of objects holds every member once**, under its store name and as it is sent out. -/
theorem tableOf_staged {schema : Schema α} {target : TypeName} {objects : List α} {store : List Field}
    {table : BulkTable} (he : schema target = .entity e) (hrules : rules.isEmpty = true)
    (hmode : rules.settings.mode = .plain ∨ store = [])
    (h : rules.tableOf schema target objects store = .ok table) :
    ∃ order, Staged e rules.settings.enumStorage table.fields order ∧
      List.Forall₂ (fun object values => StagedValues e rules.settings.enumStorage object values order)
        objects table.rows := by
  obtain ⟨r, hr, h⟩ := Result.bind_eq_ok_iff.1 h
  obtain ⟨rows, hrows, h⟩ := Result.bind_eq_ok_iff.1 h
  obtain ⟨plan, hplan, hr⟩ := Result.bind_eq_ok_iff.1 hr
  obtain rfl := Except.ok.inj h
  obtain rfl := Except.ok.inj hr
  dsimp only [Fingerprint.objectToParameters, Option.getD_some] at hplan
  rw [he] at hplan
  obtain ⟨order, hperm, hsends⟩ := Plan.ofParameters_sends hrules hmode hplan
  refine ⟨order, columns_staged store hperm hsends, (Result.mapM_eq_ok hrows).imp fun object values hrow => ?_⟩
  obtain ⟨ps, hps, rfl⟩ := Result.map_eq_ok_iff.1 hrow
  rw [ParameterRoutine.call] at hps
  dsimp only [Fingerprint.objectToParameters] at hps
  rw [he] at hps
  have hsent := ParameterRoutine.parameters_sent hsends hps
  refine ⟨by rw [List.length_map, hsent.length_eq], fun hi hw => ?_⟩
  rw [List.getElem?_map] at hw
  obtain ⟨q, hq, rfl⟩ := Option.map_eq_some_iff.1 hw
  exact forall₂_getElem? hsent hi hq

end Rules

end RowBinding
