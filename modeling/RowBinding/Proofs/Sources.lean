import RowBinding.Proofs.Plans
import RowBinding.Entity.Blueprint
import RowBinding.Routine.Row
/-!
# The sources of a plan

A routine moves each value out of the row, so an operation that has its source in common with one before it finds
nothing there.  Assignments never share a source, neither with one another nor with an argument.  Arguments may: two
parameters can find one field, and both get an operation.  **The sources of a plan differ exactly when the parameters of
the selected constructor find different fields** (`sources_nodup_iff`).
-/
namespace RowBinding

variable {α : Type}

/-- The parameters of a constructor find different fields. -/
def EntityDef.Apart (e : EntityDef α) (fields : List Field) (c : ConstructorDef α) : Prop :=
  (c.params.map fun param => e.parameterField? fields param.name).Nodup

/-- The parameters of the selected constructor, if there is one, find different fields. -/
def TypeDef.Apart (d : TypeDef α) (fields : List Field) (selected : Option Nat) : Prop :=
  match d with
  | .scalar _ => True
  | .entity e => ∀ c, selected.bind (e.constructors[·]?) = some c → e.Apart fields c

namespace Plan

variable {rules : Rules α} {e : EntityDef α} {p : Fingerprint}

theorem map_field_arguments {fields : List Field} {c : ConstructorDef α} {args : List ArgumentBinding}
    (h : e.arguments? fields c = some args) :
    c.params.map (fun param => e.parameterField? fields param.name) = args.map fun a => some a.field := by
  obtain ⟨hlen, hall⟩ := EntityDef.arguments?_eq_some_iff.1 h
  refine List.ext_getElem (by simpa using hlen) fun i hi hj => ?_
  rw [List.length_map] at hi hj
  rw [List.getElem_map, List.getElem_map]
  exact (hall i _ _ (List.getElem?_eq_getElem hi) (List.getElem?_eq_getElem hj)).1

theorem apart_iff_nodup {fields : List Field} {c : ConstructorDef α} {args : List ArgumentBinding}
    (h : e.arguments? fields c = some args) : e.Apart fields c ↔ (args.map (·.field)).Nodup := by
  have hmap : args.map (fun a => some a.field) = (args.map (·.field)).map some := by rw [List.map_map]; rfl
  rw [EntityDef.Apart, map_field_arguments h, hmap]
  exact List.nodup_map_iff fun _ _ => Option.some.inj

theorem nodup_assignments (e : EntityDef α) (fields : List Field) (args : List ArgumentBinding) :
    ((e.assignments fields args).map (·.field)).Nodup :=
  List.Pairwise.map _ (fun _ _ hab => Nat.ne_of_lt hab) (EntityDef.assignments_sorted e fields args)

theorem field_ne_of_assignment {fields : List Field} {args : List ArgumentBinding} {a : ArgumentBinding}
    {b : MemberBinding} (ha : a ∈ args) (hb : b ∈ e.assignments fields args) : a.field ≠ b.field := by
  obtain ⟨f, -, hfree, -⟩ := (EntityDef.mem_assignments_iff.1 hb).1
  exact hfree a ha

/-- **Where the sources of a plan come from**: the fields of the arguments, then those of the assignments. -/
theorem sources_entity {plan : Plan} (h : ofRow rules (.entity e) p = .ok plan) :
    ∃ c args, plan.selected.bind (e.constructors[·]?) = some c ∧ e.arguments? p.fields c = some args ∧
      plan.operations = plan.arguments ++ plan.assignments ∧
      plan.arguments.map (·.source) = args.map (·.field) ∧
      plan.assignments.map (·.source) = (e.assignments p.fields args).map (·.field) := by
  obtain ⟨i, c, args, -, -, hc, hargs, -, hsel, hops, hleft, hright⟩ := ofRow_entity h
  refine ⟨c, args, by rw [hsel, Option.bind_some, hc], hargs, hops, ?_, ?_⟩
  · exact (map_eq_of_forall₂ hleft fun a op hop => (argumentOperation?_bound hop).1).symm
  · exact (map_eq_of_forall₂ hright fun b op hop => (assignmentOperation?_bound hop).1).symm

/-- No assignment shares its source, whatever the arguments do. -/
theorem assignments_unshared {plan : Plan} (h : ofRow rules (.entity e) p = .ok plan) :
    (plan.assignments.map (·.source)).Nodup ∧
      ∀ s ∈ plan.arguments.map (·.source), ∀ t ∈ plan.assignments.map (·.source), s ≠ t := by
  obtain ⟨c, args, -, -, -, hleft, hright⟩ := sources_entity h
  rw [hleft, hright]
  refine ⟨nodup_assignments e p.fields args, fun s hs t ht => ?_⟩
  obtain ⟨a, ha, rfl⟩ := List.mem_map.1 hs
  obtain ⟨b, hb, rfl⟩ := List.mem_map.1 ht
  exact field_ne_of_assignment ha hb

/-- **The sources of a plan differ exactly when the parameters of the selected constructor find different fields**; the
operations that share a source are arguments, none of them is an assignment. -/
theorem sources_nodup_iff (rules : Rules α) (d : TypeDef α) (p : Fingerprint) (plan : Plan)
    (h : ofRow rules d p = .ok plan) :
    ((plan.operations.map (·.source)).Nodup ↔ d.Apart p.fields plan.selected) ∧
      (plan.assignments.map (·.source)).Nodup ∧
      ∀ s ∈ plan.arguments.map (·.source), ∀ t ∈ plan.assignments.map (·.source), s ≠ t := by
  cases d with
  | scalar s =>
    obtain ⟨f, -, rfl⟩ := ofRow_scalar h
    simp [TypeDef.Apart, assignments, arguments, scalarOperation, inboundOperation, Slot.isMember]
  | entity e =>
    obtain ⟨c, args, hc, hargs, hops, hleft, -⟩ := sources_entity h
    have hun := assignments_unshared h
    refine ⟨?_, hun⟩
    have happ : TypeDef.Apart (.entity e) p.fields plan.selected ↔ e.Apart p.fields c := by
      rw [TypeDef.Apart, hc]
      exact ⟨fun h => h c rfl, fun h c' hc' => Option.some.inj hc' ▸ h⟩
    rw [happ, apart_iff_nodup hargs, ← hleft, hops, List.map_append, List.nodup_append]
    exact ⟨fun h => h.1, fun h => ⟨h, hun⟩⟩

/-! ## Two parameters, one field -/

/-- An entity whose first member has the name of its second one in the store. -/
def overlapping : Blueprint where
  name := "Overlapping"
  members := [⟨"a", .base (.integer .int64), some "x", false⟩, ⟨"x", .base (.integer .int64), none, false⟩]
  constructors :=
    [⟨"new", [("a", .base (.integer .int64)), ("x", .base (.integer .int64))], none⟩,
      ⟨"only", [("a", .base (.integer .int64))], none⟩]

/-- The row of one column that both members answer to. -/
def overlappingShape : Fingerprint := .rowToObject "Overlapping" [.column "x" (.integer .int64)]

theorem ofRow_overlapping : ∃ plan, ofRow (.ofSettings {}) (.entity overlapping.entity) overlappingShape = .ok plan ∧
    plan.operations.map (·.source) = [0, 0] := by
  have h : (ofRow (.ofSettings {}) (.entity overlapping.entity) overlappingShape).map
      (fun plan => plan.operations.map (·.source)) = .ok [0, 0] := by decide
  exact Result.map_eq_ok_iff.1 h

theorem ofRow_shares_source : ∃ plan, ofRow (.ofSettings {}) (.entity overlapping.entity) overlappingShape = .ok plan ∧
    Field.Distinct overlappingShape.fields ∧ ¬ (plan.operations.map (·.source)).Nodup := by
  obtain ⟨plan, hplan, hsources⟩ := ofRow_overlapping
  refine ⟨plan, hplan, by decide, ?_⟩
  rw [hsources]
  decide

theorem not_apart_overlapping : ∃ plan, ofRow (.ofSettings {}) (.entity overlapping.entity) overlappingShape = .ok plan ∧
    ¬ TypeDef.Apart (.entity overlapping.entity) overlappingShape.fields plan.selected := by
  obtain ⟨plan, hplan, hsources⟩ := ofRow_overlapping
  refine ⟨plan, hplan, fun hapart => ?_⟩
  have hnodup := (sources_nodup_iff (.ofSettings {}) (.entity overlapping.entity) overlappingShape plan hplan).1.2 hapart
  rw [hsources] at hnodup
  exact absurd hnodup (by decide)

/-- The second of the two arguments finds the NULL that the first one left, and the constructor gets a zero for it. -/
example : ((RowRoutine.compile (fun _ => .entity overlapping.entity) (.ofSettings {}) overlappingShape).bind fun r =>
    r.call ⟨overlappingShape.fields, [.integer (k := .int64) ⟨5, by decide⟩]⟩) =
      .ok ⟨"new", [.integer (k := .int64) ⟨5, by decide⟩, .integer (.zero .int64)],
        [.integer (k := .int64) ⟨5, by decide⟩, .integer (.zero .int64)]⟩ := by
  decide

end Plan

end RowBinding
