import RowBinding.Proofs.Assignment
import RowBinding.Plan.Basic
/-!
# The operations of a plan

The plan for a row follows its analysis step by step.  **Every binding becomes one operation and none is left out**
(`ofRow_entity`): first those of the parameters, in order, then those of the assignments, each with the field of its
binding for its source.
-/
namespace RowBinding

variable {α β γ : Type}

/-! ## Analysis -/

theorem EntityDef.analyzeRow_eq_ok_iff {e : EntityDef α} {p : Fingerprint} {a : ShapeAnalysis} :
    e.analyzeRow p = .ok a ↔ ∃ i args, e.select? p.fields = some (i, args) ∧
      ¬ (args = [] ∧ e.assignments p.fields args = []) ∧
      a = ⟨if args.isEmpty then .memberInit else .constructorArgs, some i, args, e.assignments p.fields args⟩ := by
  rw [analyzeRow]
  constructor
  · intro h
    split at h
    · cases h
    · rename_i i args hs
      dsimp only at h
      split at h
      · cases h
      · rename_i hne
        exact ⟨i, args, hs, by simpa using hne, (Except.ok.inj h).symm⟩
  · rintro ⟨i, args, hs, hne, rfl⟩
    rw [hs]
    dsimp only
    rw [if_neg (by simpa using hne)]

theorem TypeDef.analyzeRow_entity {e : EntityDef α} {p : Fingerprint} {a : ShapeAnalysis} :
    (TypeDef.entity e).analyzeRow p = .ok a ↔ Field.Distinct p.fields ∧ e.analyzeRow p = .ok a := by
  rw [TypeDef.analyzeRow, Result.bind_eq_ok_iff, ← Fingerprint.checkUnique_iff]
  exact ⟨fun ⟨_, hu, h⟩ => ⟨hu, h⟩, fun ⟨hu, h⟩ => ⟨(), hu, h⟩⟩

theorem TypeDef.analyzeRow_scalar {s : ScalarDef α} {p : Fingerprint} {a : ShapeAnalysis} :
    (TypeDef.scalar s).analyzeRow p = .ok a ↔
      Field.Distinct p.fields ∧ p.fields.length = 1 ∧ a = ⟨.scalar, none, [], []⟩ := by
  rw [TypeDef.analyzeRow, Result.bind_eq_ok_iff, ← Fingerprint.checkUnique_iff]
  constructor
  · rintro ⟨_, hu, h⟩
    split at h
    · exact ⟨hu, ‹_›, (Except.ok.inj h).symm⟩
    · cases h
  · rintro ⟨hu, hlen, rfl⟩
    exact ⟨(), hu, if_pos hlen⟩

/-! ## Operations -/

namespace Plan

variable {rules : Rules α} {e : EntityDef α} {p : Fingerprint}

theorem argumentOperation?_eq_some {c : ConstructorDef α} {a : ArgumentBinding} {op : Operation}
    (h : argumentOperation? rules p e c a = some op) : ∃ f param, p.fields[a.field]? = some f ∧
      c.params[a.param]? = some param ∧
      op = inboundOperation (rules.resolveInbound p.target
        (((a.member.bind (e.members[·]?)).map (·.name)).getD param.name) param.type f.type) f a.field param.type
        param.nullable (.argument a.param) := by
  obtain ⟨f, hf, h⟩ := Option.bind_eq_some_iff.1 h
  obtain ⟨param, hparam, h⟩ := Option.bind_eq_some_iff.1 h
  exact ⟨f, param, hf, hparam, (Option.some.inj h).symm⟩

theorem assignmentOperation?_eq_some {b : MemberBinding} {op : Operation}
    (h : assignmentOperation? rules p e b = some op) : ∃ f m, p.fields[b.field]? = some f ∧
      e.members[b.member]? = some m ∧
      op = inboundOperation (rules.resolveInbound p.target m.name m.type f.type) f b.field m.type m.nullable
        (.member b.member) := by
  obtain ⟨f, hf, h⟩ := Option.bind_eq_some_iff.1 h
  obtain ⟨m, hm, h⟩ := Option.bind_eq_some_iff.1 h
  exact ⟨f, m, hf, hm, (Option.some.inj h).symm⟩

theorem argumentOperation?_bound {c : ConstructorDef α} {a : ArgumentBinding} {op : Operation}
    (h : argumentOperation? rules p e c a = some op) : a.field = op.source ∧ Slot.argument a.param = op.destination := by
  obtain ⟨f, param, -, -, rfl⟩ := argumentOperation?_eq_some h
  exact ⟨rfl, rfl⟩

theorem assignmentOperation?_bound {b : MemberBinding} {op : Operation}
    (h : assignmentOperation? rules p e b = some op) : b.field = op.source ∧ Slot.member b.member = op.destination := by
  obtain ⟨f, m, -, -, rfl⟩ := assignmentOperation?_eq_some h
  exact ⟨rfl, rfl⟩

theorem argumentOperations (rules : Rules α) {c : ConstructorDef α} {args : List ArgumentBinding}
    (h : e.arguments? p.fields c = some args) :
    List.Forall₂ (fun a op => argumentOperation? rules p e c a = some op) args
      (args.filterMap (argumentOperation? rules p e c)) := by
  obtain ⟨hlen, hall⟩ := EntityDef.arguments?_eq_some_iff.1 h
  refine forall₂_filterMap fun a ha => ?_
  obtain ⟨i, hi⟩ := List.getElem?_of_mem ha
  have hic : i < c.params.length := hlen ▸ (List.getElem?_eq_some_iff.1 hi).1
  obtain ⟨hfield, hparam, -⟩ := hall i c.params[i] a (List.getElem?_eq_getElem hic) hi
  have hlt : a.field < p.fields.length := EntityDef.parameterField?_lt hfield
  have hf : p.fields[a.field]? = some p.fields[a.field] := List.getElem?_eq_getElem hlt
  have hp : c.params[a.param]? = some c.params[i] := by rw [hparam, List.getElem?_eq_getElem hic]
  simp [argumentOperation?, hf, hp]

theorem assignmentOperations (rules : Rules α) (e : EntityDef α) (p : Fingerprint) (args : List ArgumentBinding) :
    List.Forall₂ (fun b op => assignmentOperation? rules p e b = some op) (e.assignments p.fields args)
      ((e.assignments p.fields args).filterMap (assignmentOperation? rules p e)) := by
  refine forall₂_filterMap fun b hb => ?_
  obtain ⟨f, hf, -, -, ⟨m, hm, -⟩, -⟩ := (EntityDef.mem_assignments_iff.1 hb).1
  simp [assignmentOperation?, hf, hm]

/-- **A plan for an entity has one operation for each binding.** -/
theorem ofRow_entity {plan : Plan} (h : ofRow rules (.entity e) p = .ok plan) :
    ∃ i c args, Field.Distinct p.fields ∧ e.select? p.fields = some (i, args) ∧ e.constructors[i]? = some c ∧
      e.arguments? p.fields c = some args ∧ plan.fingerprint = p ∧ plan.selected = some i ∧
      plan.operations = plan.arguments ++ plan.assignments ∧
      List.Forall₂ (fun a op => argumentOperation? rules p e c a = some op) args plan.arguments ∧
      List.Forall₂ (fun b op => assignmentOperation? rules p e b = some op) (e.assignments p.fields args)
        plan.assignments := by
  obtain ⟨a, ha, h⟩ := Result.bind_eq_ok_iff.1 h
  obtain ⟨hd, ha⟩ := TypeDef.analyzeRow_entity.1 ha
  obtain ⟨i, args, hs, -, rfl⟩ := EntityDef.analyzeRow_eq_ok_iff.1 ha
  obtain ⟨c, hc, hargs⟩ := EntityDef.select?_eq_some hs
  have hops : plan.operations = args.filterMap (argumentOperation? rules p e c) ++
      (e.assignments p.fields args).filterMap (assignmentOperation? rules p e) := by
    rw [← Except.ok.inj h]
    simp only [inboundOperations, Option.bind_some, hc]
  have hleft := argumentOperations rules hargs
  have hright := assignmentOperations rules e p args
  have harg : ∀ op ∈ args.filterMap (argumentOperation? rules p e c), ∃ i, Slot.argument i = op.destination := by
    intro op hop
    obtain ⟨a, -, ha⟩ := exists_of_mem_forall₂ hleft.flip hop
    exact ⟨_, (argumentOperation?_bound ha).2⟩
  have hmem : ∀ op ∈ (e.assignments p.fields args).filterMap (assignmentOperation? rules p e),
      ∃ i, Slot.member i = op.destination := by
    intro op hop
    obtain ⟨b, -, hb⟩ := exists_of_mem_forall₂ hright.flip hop
    exact ⟨_, (assignmentOperation?_bound hb).2⟩
  have h1 : plan.arguments = args.filterMap (argumentOperation? rules p e c) := by
    rw [arguments, hops, List.filter_append, List.filter_eq_self.2, List.filter_eq_nil_iff.2, List.append_nil]
    · intro op hop
      obtain ⟨i, hi⟩ := hmem op hop
      simp [← hi, Slot.isArgument]
    · intro op hop
      obtain ⟨i, hi⟩ := harg op hop
      rw [← hi, Slot.isArgument]
  have h2 : plan.assignments = (e.assignments p.fields args).filterMap (assignmentOperation? rules p e) := by
    rw [assignments, hops, List.filter_append, List.filter_eq_nil_iff.2, List.filter_eq_self.2, List.nil_append]
    · intro op hop
      obtain ⟨i, hi⟩ := hmem op hop
      rw [← hi, Slot.isMember]
    · intro op hop
      obtain ⟨i, hi⟩ := harg op hop
      simp [← hi, Slot.isMember]
  rw [h1, h2]
  exact ⟨i, c, args, hd, hs, hc, hargs, by rw [← Except.ok.inj h], by rw [← Except.ok.inj h], hops, hleft, hright⟩

theorem ofRow_scalar {s : ScalarDef α} {plan : Plan} (h : ofRow rules (.scalar s) p = .ok plan) :
    ∃ f, p.fields = [f] ∧ plan = ⟨p, .scalar, none, [scalarOperation rules p s f]⟩ := by
  obtain ⟨a, ha, h⟩ := Result.bind_eq_ok_iff.1 h
  obtain ⟨-, hlen, rfl⟩ := TypeDef.analyzeRow_scalar.1 ha
  obtain ⟨f, hf⟩ := List.length_eq_one_iff.1 hlen
  obtain rfl := Except.ok.inj h
  exact ⟨f, hf, by simp [inboundOperations, hf]⟩

end Plan

end RowBinding
