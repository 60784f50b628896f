import RowBinding.Proofs.ColumnOrder
import RowBinding.Proofs.StoreOrder
/-!
# Names of members, in rows and in parameters

A column of a row finds its member by the store name or by the member's own name, while a parameter finds its column by
the store name alone.  So **a member that is read from the column of its store name is sent to that column, and one that
is read from a column of its own name only is sent to none** (`EntityDef.sent_of_assigned`).
-/
namespace RowBinding

variable {α : Type}

/-- The parameter of a binding is planned for a column of a type, or for none: it has the type and the coercion that the
rules give for such a column. -/
def Rules.PlansFor (rules : Rules α) (e : EntityDef α) (source : TypeDef α) (p : Fingerprint) (binding : ParameterBinding)
    (column : Option ValueType) : Prop :=
  ∃ plan op m, Plan.ofParameters rules (.entity e) source p = .ok plan ∧ op ∈ plan.operations ∧
    op.source = binding.member ∧ e.members[binding.member]? = some m ∧
    let rule := rules.resolveOutbound (Plan.outboundMembers p source m binding) m.type column
    op.type = rule.type ∧ op.coercion = rule.coercion

namespace Plan

variable {e : EntityDef α} {source : TypeDef α} {p : Fingerprint} {bs : List ParameterBinding}

/-- A parameter is planned for the column that its member is bound to. -/
theorem plansFor_binding (h : (TypeDef.entity e).analyzeParameters source p = .ok bs) {binding : ParameterBinding}
    (hbinding : binding ∈ bs) (rules : Rules α) :
    rules.PlansFor e source p binding ((binding.field.bind (p.fields[·]?)).map (·.type)) := by
  obtain ⟨m, hm, -⟩ := analyzeParameters_binding h binding hbinding
  obtain ⟨op, hop⟩ : ∃ op, outboundOperation? rules p e source binding = some op := by
    rw [outboundOperation?, hm]
    exact ⟨_, rfl⟩
  refine ⟨_, op, m, Result.bind_eq_ok_iff.2 ⟨bs, h, rfl⟩, List.mem_filterMap.2 ⟨binding, hbinding, hop⟩, ?_⟩
  rw [outboundOperation?, hm] at hop
  obtain rfl := Option.some.inj hop
  exact ⟨rfl, hm, rfl, rfl⟩

theorem mem_bindings (h : (TypeDef.entity e).analyzeParameters source p = .ok bs) {i : Nat} {m : MemberDef α}
    (hm : e.members[i]? = some m) : m.parameterBinding i (source.through? p) p.fields ∈ bs := by
  rw [(analyzeParameters_perm h).mem_iff]
  exact List.mem_map.2 ⟨(m, i), List.mem_zipIdx_iff_getElem?.2 hm, rfl⟩

/-- **The parameter of a member is for the column of the member's store name**, or for none where there is no such
column, and is planned so. -/
theorem binding_of_member (h : (TypeDef.entity e).analyzeParameters source p = .ok bs) {i : Nat} {m : MemberDef α}
    (hm : e.members[i]? = some m) : ∃ binding ∈ bs, binding.member = i ∧
      binding.field = Field.positionOf? p.fields m.fieldName ∧
      ∀ rules : Rules α, rules.PlansFor e source p binding ((Field.named? p.fields m.fieldName).map (·.type)) := by
  have hbinding := mem_bindings h hm
  have hfield : (m.parameterBinding i (source.through? p) p.fields).field = Field.positionOf? p.fields m.fieldName := by
    rw [field_of_binding h hbinding]
    exact congrArg (Option.bind · _) hm
  refine ⟨_, hbinding, rfl, hfield, fun rules => ?_⟩
  rw [← Field.positionOf?_bind, ← hfield]
  exact plansFor_binding h hbinding rules

end Plan

namespace EntityDef

variable {e : EntityDef α} {f : Field} {m : MemberDef α}

theorem named_of_memberOf? {i : Nat} (h : e.memberOf? f = some i) : ∃ m, e.members[i]? = some m ∧
    (f.isNamed m.fieldName = true ∨ m.mappedName.isSome = true ∧ f.isNamed m.name = true) := by
  obtain ⟨m, hm, ⟨name, hname, hf⟩ | hf⟩ := memberOf?_named h
  · refine ⟨m, hm, .inl ?_⟩
    rwa [MemberDef.fieldName, hname]
  · refine ⟨m, hm, ?_⟩
    cases hname : m.mappedName with
    | none =>
      rw [MemberDef.fieldName, hname]
      exact .inl hf
    | some name => exact .inr ⟨rfl, hf⟩

/-- **What is read from a column of the store name is sent to that column.**  Where a row assigns a field to a member,
the parameters for the same fields hold one for the member.  If the field has the member's store name, which only a
member with another name in the store can do without, the parameter is for that field, and stands and is planned so.  If
no field has the store name the parameter is for no column. -/
theorem sent_of_assigned {source : TypeDef α} {p q : Fingerprint} {a : ShapeAnalysis} {b : MemberBinding}
    (hfields : q.fields = p.fields) (ha : (TypeDef.entity e).analyzeRow p = .ok a) (hb : b ∈ a.assignments) :
    ∃ bs f m binding, (TypeDef.entity e).analyzeParameters source q = .ok bs ∧
      e.StoreOrder p.fields (bs.map (·.member)) ∧ p.fields[b.field]? = some f ∧ e.members[b.member]? = some m ∧
      binding ∈ bs ∧ binding.member = b.member ∧
      (f.isNamed m.fieldName = true ∨ m.mappedName.isSome = true ∧ f.isNamed m.name = true) ∧
      (f.isNamed m.fieldName = true →
        binding.field = some b.field ∧ ∀ rules : Rules α, rules.PlansFor e source q binding (some f.type)) ∧
      ((∀ g ∈ p.fields, g.isNamed m.fieldName = false) →
        binding.field = none ∧ ∀ rules : Rules α, rules.PlansFor e source q binding none) := by
  obtain ⟨hdistinct, ha⟩ := TypeDef.analyzeRow_entity.1 ha
  obtain ⟨i, args, -, -, rfl⟩ := EntityDef.analyzeRow_eq_ok_iff.1 ha
  obtain ⟨⟨f, hf, -, hmember, -⟩, -⟩ := mem_assignments_iff.1 hb
  obtain ⟨m, hm, hnamed⟩ := named_of_memberOf? hmember
  rw [← hfields] at hdistinct hf ⊢
  have hbs : (TypeDef.entity e).analyzeParameters source q = .ok _ :=
    Plan.analyzeParameters_eq_ok_iff.2 ⟨hdistinct, List.ne_nil_of_mem (List.mem_of_getElem? hm), rfl⟩
  obtain ⟨binding, hbinding, hbound, hfield, hplans⟩ := Plan.binding_of_member hbs hm
  rw [← Field.positionOf?_bind] at hplans
  refine ⟨_, f, m, binding, hbs, Plan.analyzeParameters_storeOrder hbs, hf, hm, hbinding, hbound, hnamed, fun hstore => ?_,
    fun hnone => ?_⟩
  · have hposition : Field.positionOf? q.fields m.fieldName = some b.field :=
      Field.positionOf?_of_getElem? hdistinct hf hstore
    rw [hposition] at hfield hplans
    rw [Option.bind_some, hf] at hplans
    exact ⟨hfield, hplans⟩
  · have hposition : Field.positionOf? q.fields m.fieldName = none := List.findIdx?_eq_none_iff.2 hnone
    rw [hposition] at hfield hplans
    exact ⟨hfield, hplans⟩

end EntityDef

/-! ## A column of the member's own name -/

namespace ShapeAnalysis

/-- The columns of a row and of the parameters, of the entity whose member has another name in the store. -/
def renamedRow (fields : List Field) : Fingerprint := .rowToObject "Renamed" fields

def renamedParameters (fields : List Field) : Fingerprint := .objectToParameters "Renamed" "Renamed" fields

theorem sent_of_assigned_renamed :
    (∃ bs binding, (TypeDef.entity renamed.entity).analyzeParameters (.entity renamed.entity)
      (renamedParameters [byStoreName]) = .ok bs ∧ binding ∈ bs ∧ binding.member = 0 ∧ binding.field = some 0) ∧
    ∃ bs binding, (TypeDef.entity renamed.entity).analyzeParameters (.entity renamed.entity)
      (renamedParameters [byOwnName]) = .ok bs ∧ binding ∈ bs ∧ binding.member = 0 ∧ binding.field = none := by
  have hmember : ∀ {m}, renamed.entity.members[0]? = some m → m.fieldName = "x" := by
    intro m hm
    rw [← Option.some.inj hm]
    rfl
  constructor
  · obtain ⟨bs, f, m, binding, hbs, -, hf, hm, hbinding, hmem, -, hstore, -⟩ :=
      @EntityDef.sent_of_assigned _ renamed.entity (.entity renamed.entity) (renamedRow [byStoreName])
        (renamedParameters [byStoreName]) ⟨.memberInit, some 0, [], [⟨0, 0⟩]⟩ ⟨0, 0⟩ rfl (by decide) List.mem_cons_self
    obtain rfl : byStoreName = f := Option.some.inj hf
    exact ⟨bs, binding, hbs, hbinding, hmem, (hstore (by rw [hmember hm]; decide)).1⟩
  · obtain ⟨bs, f, m, binding, hbs, -, hf, hm, hbinding, hmem, -, -, hnone⟩ :=
      @EntityDef.sent_of_assigned _ renamed.entity (.entity renamed.entity) (renamedRow [byOwnName])
        (renamedParameters [byOwnName]) ⟨.memberInit, some 0, [], [⟨0, 0⟩]⟩ ⟨0, 0⟩ rfl (by decide) List.mem_cons_self
    exact ⟨bs, binding, hbs, hbinding, hmem, (hnone (by rw [hmember hm]; decide)).1⟩

/-- What is read from a column is not always sent to it. -/
theorem not_sent_of_assigned : ¬ ∀ (e : EntityDef Assembly) (target : TypeName) (fields : List Field) (a : ShapeAnalysis)
    (b : MemberBinding), (TypeDef.entity e).analyzeRow (.rowToObject target fields) = .ok a → b ∈ a.assignments →
      ∃ bs, (TypeDef.entity e).analyzeParameters (.entity e) (.objectToParameters target target fields) = .ok bs ∧
        ∃ binding ∈ bs, binding.member = b.member ∧ binding.field = some b.field := by
  intro hall
  obtain ⟨bs, hbs, binding, hbinding, hmember, hfield⟩ := hall renamed.entity "Renamed" [byOwnName]
    ⟨.memberInit, some 0, [], [⟨0, 0⟩]⟩ ⟨0, 0⟩ (by decide) List.mem_cons_self
  have hcolumn := Plan.field_of_binding hbs hbinding
  rw [hmember, hfield] at hcolumn
  exact absurd hcolumn (by decide)

end ShapeAnalysis

end RowBinding
