import RowBinding.Proofs.Sources
/-!
# Well-formed plans

A plan says which value goes where, and a run looks up everything it names: a field, a parameter, a member.  **Every plan
that planning gives names only what there is** (`wellFormed_ofRow`), one operation for each parameter of the constructor,
in order, and at most one for each member.
-/
namespace RowBinding

variable {α : Type}

namespace Plan

/-- The plan of a scalar moves its only field to the result. -/
def ReadsScalar (plan : Plan) : Prop :=
  ∃ op, plan.operations = [op] ∧ op.source = 0 ∧ op.destination = .result

/-- The operations first feed the parameters of a constructor and then assign members. -/
structure Builds (plan : Plan) (e : EntityDef α) (c : ConstructorDef α) : Prop where
  selected : plan.selected.bind (e.constructors[·]?) = some c
  operations : plan.operations = plan.arguments ++ plan.assignments
  /-- One argument for each parameter, in order. -/
  arguments : plan.arguments.map (·.destination) = (List.range c.params.length).map .argument
  /-- The members are different, can be set, and feed no parameter. -/
  assignments : ∃ ms : List Nat, plan.assignments.map (·.destination) = ms.map .member ∧ ms.Nodup ∧
    ∀ m ∈ ms, (∃ d, e.members[m]? = some d ∧ d.isWritable = true) ∧
      ∀ param ∈ c.params, e.memberNamed? param.name ≠ some m
  increasing : (plan.assignments.map (·.source)).Pairwise (· < ·)
  apart : ∀ s ∈ plan.arguments.map (·.source), ∀ t ∈ plan.assignments.map (·.source), s ≠ t

/-- The plan has something to do, and a run finds all that it names. -/
structure WellFormed (plan : Plan) (d : TypeDef α) : Prop where
  nonempty : plan.operations ≠ []
  sources : ∀ op ∈ plan.operations, op.source < plan.fingerprint.fields.length
  body : match d with
    | .scalar _ => plan.ReadsScalar
    | .entity e => ∃ c, plan.Builds e c

variable {rules : Rules α} {e : EntityDef α} {p : Fingerprint} {plan : Plan}

theorem source_lt_of_argument {c : ConstructorDef α} {a : ArgumentBinding} {op : Operation}
    (h : argumentOperation? rules p e c a = some op) : op.source < p.fields.length := by
  obtain ⟨f, -, hf, -, rfl⟩ := argumentOperation?_eq_some h
  exact (List.getElem?_eq_some_iff.1 hf).1

theorem source_lt_of_assignment {b : MemberBinding} {op : Operation} (h : assignmentOperation? rules p e b = some op) :
    op.source < p.fields.length := by
  obtain ⟨f, -, hf, -, rfl⟩ := assignmentOperation?_eq_some h
  exact (List.getElem?_eq_some_iff.1 hf).1

/-- The bindings of a satisfied constructor are numbered. -/
theorem map_param_arguments {fields : List Field} {c : ConstructorDef α} {args : List ArgumentBinding}
    (h : e.arguments? fields c = some args) : args.map (·.param) = List.range c.params.length := by
  obtain ⟨hlen, hall⟩ := EntityDef.arguments?_eq_some_iff.1 h
  refine List.ext_getElem (by simp [hlen]) fun i hi _ => ?_
  rw [List.length_map] at hi
  have hparam := List.getElem?_eq_getElem (hlen ▸ hi : i < c.params.length)
  have hbound := (hall i _ _ hparam (List.getElem?_eq_getElem hi)).2.1
  rw [List.getElem_map, List.getElem_range, hbound]

/-- A member that feeds a parameter is the member of that parameter's name. -/
theorem exists_argument_member {fields : List Field} {c : ConstructorDef α} {args : List ArgumentBinding}
    (h : e.arguments? fields c = some args) {param : ParamDef} (hparam : param ∈ c.params) :
    ∃ a ∈ args, a.member = e.memberNamed? param.name := by
  obtain ⟨hlen, hall⟩ := EntityDef.arguments?_eq_some_iff.1 h
  obtain ⟨i, hi⟩ := List.getElem?_of_mem hparam
  have hlt : i < args.length := hlen ▸ (List.getElem?_eq_some_iff.1 hi).1
  exact ⟨args[i], List.getElem_mem hlt, (hall i _ _ hi (List.getElem?_eq_getElem hlt)).2.2⟩

/-- A member is wanted by the first field only. -/
theorem nodup_members (e : EntityDef α) (fields : List Field) (args : List ArgumentBinding) :
    ((e.assignments fields args).map (·.member)).Nodup := by
  refine List.Nodup.map_on (fun a ha b hb hab => ?_) (List.Nodup.of_map _ (nodup_assignments e fields args))
  have hfirst := EntityDef.mem_assignments_iff.1 ha
  rw [hab] at hfirst
  have hfield := hfirst.eq (EntityDef.mem_assignments_iff.1 hb)
  obtain ⟨i, m⟩ := a
  obtain ⟨j, n⟩ := b
  rw [MemberBinding.mk.injEq]
  exact ⟨hfield, hab⟩

theorem builds_ofRow (h : ofRow rules (.entity e) p = .ok plan) : ∃ c, plan.Builds e c := by
  obtain ⟨i, c, args, -, -, hc, hargs, -, hsel, hops, hleft, hright⟩ := ofRow_entity h
  have hsources := (assignments_unshared h).2
  have hassigned : plan.assignments.map (·.source) = (e.assignments p.fields args).map (·.field) :=
    (map_eq_of_forall₂ hright fun b op hop => (assignmentOperation?_bound hop).1).symm
  refine ⟨c, ?_, hops, ?_, ⟨(e.assignments p.fields args).map (·.member), ?_, nodup_members e p.fields args, ?_⟩, ?_, hsources⟩
  · rw [hsel, Option.bind_some, hc]
  · rw [← map_param_arguments hargs, List.map_map]
    exact (map_eq_of_forall₂ hleft fun a op hop => (argumentOperation?_bound hop).2).symm
  · rw [List.map_map]
    exact (map_eq_of_forall₂ hright fun b op hop => (assignmentOperation?_bound hop).2).symm
  · intro m hm
    obtain ⟨b, hb, rfl⟩ := List.mem_map.1 hm
    obtain ⟨f, -, -, -, hwritable, hfree⟩ := (EntityDef.mem_assignments_iff.1 hb).1
    refine ⟨hwritable, fun param hparam hmember => ?_⟩
    obtain ⟨a, ha, hnamed⟩ := exists_argument_member hargs hparam
    exact hfree a ha (hnamed.trans hmember)
  · rw [hassigned, List.pairwise_map]
    exact EntityDef.assignments_sorted e p.fields args

/-- Planning refuses a shape that binds nothing. -/
theorem operations_ne_nil (h : ofRow rules (.entity e) p = .ok plan) : plan.operations ≠ [] := by
  obtain ⟨i, c, args, -, hs, -, -, -, -, hops, hleft, hright⟩ := ofRow_entity h
  obtain ⟨a, ha, -⟩ := Result.bind_eq_ok_iff.1 h
  obtain ⟨j, bound, hbound, hne, -⟩ := EntityDef.analyzeRow_eq_ok_iff.1 (TypeDef.analyzeRow_entity.1 ha).2
  obtain ⟨rfl, rfl⟩ : i = j ∧ args = bound := by simpa using hs.symm.trans hbound
  intro hnil
  rw [hops, List.append_eq_nil_iff] at hnil
  rw [hnil.1, List.forall₂_nil_right_iff] at hleft
  rw [hnil.2, List.forall₂_nil_right_iff] at hright
  exact hne ⟨hleft, hright⟩

/-- **Every plan that reads rows is well formed.** -/
theorem wellFormed_ofRow {d : TypeDef α} (h : ofRow rules d p = .ok plan) : plan.WellFormed d := by
  cases d with
  | scalar s =>
    obtain ⟨f, hf, rfl⟩ := ofRow_scalar h
    refine ⟨List.cons_ne_nil _ _, fun op hop => ?_, ⟨_, rfl, rfl, rfl⟩⟩
    rw [List.mem_singleton.1 hop]
    simp [scalarOperation, inboundOperation, hf]
  | entity e =>
    obtain ⟨i, c, args, -, -, -, -, hp, -, hops, hleft, hright⟩ := ofRow_entity h
    refine ⟨operations_ne_nil h, fun op hop => ?_, builds_ofRow h⟩
    rw [hp]
    rw [hops] at hop
    rcases List.mem_append.1 hop with hop | hop
    · obtain ⟨a, -, ha⟩ := exists_of_mem_forall₂ hleft.flip hop
      exact source_lt_of_argument ha
    · obtain ⟨b, -, hb⟩ := exists_of_mem_forall₂ hright.flip hop
      exact source_lt_of_assignment hb

end Plan

end RowBinding
