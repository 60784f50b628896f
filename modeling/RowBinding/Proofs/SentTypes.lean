import RowBinding.Proofs.ConversionTypes
import RowBinding.Proofs.StagedParameters
import RowBinding.Proofs.StoreFieldTypes
import RowBinding.Sample.Cents
import RowBinding.Sample.Checks
/-!
# The types of sent values

The type that an operation declares for its parameter is settled in up to three steps: the handler's storage type, the
type of the store field, the representation of variants.  **A value that starts with the member's type arrives with the
declared one** (`Rules.resolveOutbound_type?`), so the columns of a table tell the types of its cells
(`ParameterRoutine.sends_declared`).  A parameter always has a storage type, and that of a variant that was not rendered
is the one that takes anything.
-/
namespace RowBinding

variable {α : Type}

namespace StorageType

theorem valueType?_eq_none {s : StorageType} : s.valueType? = none ↔ s = object := by
  cases s <;> simp [valueType?]

theorem forValueType?_isSome {t : ValueType} (h : t.isEnum = false) : (forValueType? t).isSome = true := by
  cases t with
  | enumeration e => cases h
  | float w => cases w <;> rfl
  | _ => rfl

end StorageType

/-! ## Resolution -/

namespace Rules

variable {rules : Rules α} {members : List OutboundMember} {own t : ValueType} {v w : Value}

theorem towardField_type? {fieldType? : Option ValueType} (hv : v.type? = some own)
    (hw : (rules.towardField own fieldType?).2.apply v = .ok w) :
    w.type? = some (rules.towardField own fieldType?).1 := by
  unfold towardField at hw ⊢
  split at hw
  · rename_i field _
    by_cases hown : field = own
    · rw [if_pos hown] at hw ⊢
      obtain rfl := Except.ok.inj hw
      exact hv
    · rw [if_neg hown] at hw ⊢
      exact Value.convert_type? hw
  · obtain rfl := Except.ok.inj hw
    exact hv

/-- Every parameter has a storage type: what no rule and no type of its own gives, the settings give. -/
theorem exists_storageOf (rules : Rules α) (members : List OutboundMember) (t : ValueType) :
    ∃ tag, rules.storageOf members t = some tag := by
  refine Option.isSome_iff_exists.1 ?_
  unfold storageOf
  cases henum : t.isEnum with
  | true => simp
  | false => simp [StorageType.forValueType?_isSome henum]

theorem rendered_type? {coercion : Coercion} {storage : Option StorageType}
    (ht : ∀ w, coercion.apply v = .ok w → w.type? = some t) (hw : (rendered t coercion storage).2.apply v = .ok w) :
    w.type? = some (rendered t coercion storage).1 := by
  unfold rendered at hw ⊢
  split at hw
  · exact Value.convert_type? hw
  · exact ht w hw

/-- What is still a variant has the storage type that takes anything. -/
theorem rendered_isEnum {coercion : Coercion} {tag : StorageType}
    (h : (rendered t coercion (some tag)).1.isEnum = true) : tag = .object := by
  unfold rendered at h
  split at h
  · rename_i s henum hs
    have hrepresentation : representation? t (some tag) = some s := by rw [representation?, henum, if_pos rfl, hs]
    rw [(representation?_eq_some hrepresentation).2] at h
    cases h
  · rename_i hno
    refine StorageType.valueType?_eq_none.1 (Option.eq_none_iff_forall_ne_some.2 fun s hs => hno s h ?_)
    rw [Option.bind_some, hs]

/-- **A value of the member's type arrives with the type that the rule declares.** -/
theorem resolveOutbound_type? (rules : Rules α) (members : List OutboundMember) (memberType : ValueType)
    (fieldType? : Option ValueType) :
    let rule := rules.resolveOutbound members memberType fieldType?
    (∃ tag, rule.storage = some tag ∧ (rule.type.isEnum = true → tag = .object)) ∧
      ∀ v w, v.type? = some (rules.outboundType members memberType) → rule.coercion.apply v = .ok w →
        w.type? = some rule.type := by
  let toward := rules.towardField (rules.outboundType members memberType) fieldType?
  obtain ⟨tag, htag⟩ := rules.exists_storageOf members toward.1
  -- the storage is never missing, so the rule is the last step on top of the first two
  have hrule : rules.resolveOutbound members memberType fieldType? =
      ⟨(rendered toward.1 toward.2 (some tag)).1, (rendered toward.1 toward.2 (some tag)).2,
        rules.firstHandler? members, some tag⟩ := by
    rw [← htag]
    rfl
  rw [hrule]
  exact ⟨⟨tag, rfl, rendered_isEnum⟩, fun v w hv hw => rendered_type? (fun _ => towardField_type? hv) hw⟩

end Rules

/-! ## Objects -/

/-- What getters and handlers promise: a member's value has the member's type, and a handler that is given it sets a
value of its storage type. -/
structure EntityDef.Typed (e : EntityDef α) (rules : Rules α) (object : α) : Prop where
  get : ∀ m ∈ e.members, (m.get object).type? = some m.type
  set : ∀ owner name handler, rules.valueHandler? owner name = some handler → ∀ m ∈ e.members, ∀ w,
    handler.set (m.get object) = .ok w → w.type? = some handler.storage

/-- The parameter is what the operation says: its value has the declared type, it has a storage type, and as a variant
it has the one that takes anything. -/
structure Operation.Declares (op : Operation) (q : Parameter) : Prop where
  name : q.name = op.name
  type : q.value.type? = some op.type
  tagged : ∃ tag, q.storage = some tag
  variant : ∀ e, q.value.type? = some (.enumeration e) → q.storage = some .object

theorem Rules.firstHandler?_eq_some {rules : Rules α} {members : List OutboundMember} {handler : ValueHandler}
    (h : rules.firstHandler? members = some handler) : ∃ owner name, rules.valueHandler? owner name = some handler := by
  obtain ⟨m, -, hm⟩ := List.exists_of_findSome?_eq_some h
  exact ⟨m.owner, m.name, hm⟩

theorem EntityDef.Typed.send_type? {e : EntityDef α} {rules : Rules α} {object : α} (h : e.Typed rules object)
    {m : MemberDef α} (hm : m ∈ e.members) (members : List OutboundMember) (fieldType? : Option ValueType) {w : Value}
    (hw : (rules.resolveOutbound members m.type fieldType?).send (m.get object) = .ok w) :
    w.type? = some (rules.resolveOutbound members m.type fieldType?).type := by
  obtain ⟨-, hcoerced⟩ := rules.resolveOutbound_type? members m.type fieldType?
  have hhandler : (rules.resolveOutbound members m.type fieldType?).handler = rules.firstHandler? members := rfl
  unfold FieldRule.send at hw
  rw [hhandler] at hw
  cases hfirst : rules.firstHandler? members with
  | none =>
    rw [hfirst] at hw
    refine hcoerced _ w ?_ hw
    rw [Rules.outboundType, hfirst]
    exact h.get m hm
  | some handler =>
    rw [hfirst] at hw
    obtain ⟨v, hv, hw⟩ := Result.bind_eq_ok_iff.1 hw
    obtain ⟨owner, name, hfind⟩ := Rules.firstHandler?_eq_some hfirst
    refine hcoerced v w ?_ hw
    rw [Rules.outboundType, hfirst]
    exact h.set owner name handler hfind m hm v hv

/-- The operation that sends the member at a position under a rule. -/
def Plan.sendingOperation (rule : FieldRule) (m : MemberDef α) (i : Nat) : Operation :=
  ⟨i, m.fieldName, rule.type, rule.coercion, rule.handler, none, .parameter rule.storage⟩

/-- **Each operation of a plan for parameters sends a member under a rule resolved for it.** -/
theorem Plan.ofParameters_sending {rules : Rules α} {e : EntityDef α} {source : TypeDef α} {p : Fingerprint}
    {plan : Plan} (h : ofParameters rules (.entity e) source p = .ok plan) :
    plan.fingerprint = p ∧ ∀ op ∈ plan.operations, ∃ m members fieldType?, e.members[op.source]? = some m ∧
      op = sendingOperation (rules.resolveOutbound members m.type fieldType?) m op.source := by
  obtain ⟨bs, -, h⟩ := Result.bind_eq_ok_iff.1 h
  obtain rfl := Except.ok.inj h
  refine ⟨rfl, fun op hop => ?_⟩
  obtain ⟨b, -, hb⟩ := List.mem_filterMap.1 hop
  obtain ⟨m, hm, hb⟩ := Option.bind_eq_some_iff.1 hb
  obtain rfl := Option.some.inj hb
  exact ⟨m, _, _, hm, rfl⟩

namespace ParameterRoutine

variable {schema : Schema α} {rules : Rules α} {e : EntityDef α} {object : α} {target : TypeName}

/-- **What a compiled parameter routine holds**: the getters of an entity, and operations that send its members. -/
theorem compile_sending {p : Fingerprint} {r : ParameterRoutine α} (h : compile schema rules p = .ok r) :
    ∃ e, schema p.target = .entity e ∧ r.fingerprint = p ∧ r.getters = e.members.map (·.get) ∧
      ∀ op ∈ r.plan.operations, ∃ m members fieldType?, e.members[op.source]? = some m ∧
        op = Plan.sendingOperation (rules.resolveOutbound members m.type fieldType?) m op.source := by
  obtain ⟨plan, hplan, h⟩ := Result.bind_eq_ok_iff.1 h
  obtain rfl := Except.ok.inj h
  obtain ⟨e, hd⟩ := Plan.entity_of_ofParameters hplan
  rw [hd] at hplan ⊢
  obtain ⟨hp, hops⟩ := Plan.ofParameters_sending hplan
  exact ⟨e, rfl, hp, rfl, hops⟩

theorem parameter_eq_ok {op : Operation} {get : α → Value} {q : Parameter}
    (h : parameter target object op get = .ok q) :
    ∃ v, adapt op (get object) = .ok v ∧ q = ⟨op.name, v, storageOf op⟩ := by
  obtain ⟨v, hv, h⟩ := Result.bind_eq_ok_iff.1 h
  exact ⟨v, Result.inField_eq_ok hv, (Except.ok.inj h).symm⟩

/-- Where every operation has its getter, the parameters are read one after the other. -/
theorem parameters_eq_mapM {getters : List (α → Value)} : ∀ {ops : List Operation},
    (∀ op ∈ ops, ∃ get, getters[op.source]? = some get) → parameters target getters object ops =
      ops.mapM fun op => parameter target object op (getters[op.source]?.getD fun _ => .untyped)
  | [], _ => rfl
  | op :: ops, h => by
    obtain ⟨get, hget⟩ := h op List.mem_cons_self
    rw [List.mapM_cons, parameters, hget, parameters_eq_mapM fun op hop => h op (List.mem_cons_of_mem _ hop)]
    rfl

theorem call_eq_mapM {p : Fingerprint} {r : ParameterRoutine α} (hr : compile schema rules p = .ok r) (object : α) :
    r.call object = r.plan.operations.mapM fun op =>
      parameter r.fingerprint.target object op (r.getters[op.source]?.getD fun _ => .untyped) := by
  obtain ⟨e, -, -, hgetters, hops⟩ := compile_sending hr
  refine parameters_eq_mapM fun op hop => ?_
  obtain ⟨m, -, -, hm, -⟩ := hops op hop
  exact ⟨m.get, by rw [hgetters, List.getElem?_map, hm, Option.map_some]⟩

theorem adapt_sending (rule : FieldRule) (m : MemberDef α) (i : Nat) (v : Value) :
    adapt (Plan.sendingOperation rule m i) v = rule.send v := by
  unfold adapt FieldRule.send Plan.sendingOperation
  dsimp only
  cases rule.handler <;> rfl

/-- **The parameters of an object are as the operations declare them.** -/
theorem call_declares {p : Fingerprint} {r : ParameterRoutine α} (hr : compile schema rules p = .ok r)
    (htyped : ∀ e, schema p.target = .entity e → e.Typed rules object) {qs : List Parameter}
    (hqs : r.call object = .ok qs) :
    List.Forall₂ Operation.Declares r.plan.operations qs := by
  obtain ⟨e, hd, -, hgetters, hops⟩ := compile_sending hr
  rw [call_eq_mapM hr] at hqs
  have hsent := (List.forall₂_and_left _ _).2 ⟨hops, Result.mapM_eq_ok hqs⟩
  refine hsent.imp fun op q ⟨⟨m, members, fieldType?, hm, hop⟩, hq⟩ => ?_
  have hget : r.getters[op.source]?.getD (fun _ => .untyped) = m.get := by
    rw [hgetters, List.getElem?_map, hm]
    rfl
  rw [hget] at hq
  obtain ⟨w, hw, rfl⟩ := parameter_eq_ok hq
  rw [hop] at hw ⊢
  rw [adapt_sending] at hw
  have htype := (htyped e hd).send_type? (List.mem_of_getElem? hm) members fieldType? hw
  obtain ⟨⟨tag, htag, hobject⟩, -⟩ := rules.resolveOutbound_type? members m.type fieldType?
  refine ⟨rfl, htype, ⟨tag, htag⟩, fun variants hvariant => ?_⟩
  have henum : (rules.resolveOutbound members m.type fieldType?).type.isEnum = true := by
    rw [Option.some.inj (htype.symm.trans hvariant)]
    rfl
  exact htag.trans (congrArg some (hobject henum))

end ParameterRoutine

/-! ## Tables -/

/-- **The cells of a table have the types of their columns.** -/
theorem Rules.tableOf_declares {schema : Schema α} {rules : Rules α} {target : TypeName} {objects : List α}
    {store : List Field} {table : BulkTable} (h : rules.tableOf schema target objects store = .ok table)
    (htyped : ∀ e, schema target = .entity e → ∀ object ∈ objects, e.Typed rules object) :
    ∀ row ∈ table.rows, List.Forall₂ (fun (f : Field) v => v.type? = some f.type) table.fields row := by
  obtain ⟨r, hr, hfields, hrows⟩ := tableOf_ok h
  intro row hrow
  obtain ⟨object, hobject, added, hadded, rfl, -⟩ := exists_of_mem_forall₂ hrows.flip hrow
  rw [parametersFor, hr] at hadded
  have hdeclared := ParameterRoutine.call_declares hr (fun e he => htyped e he object hobject) hadded
  rw [hfields, List.forall₂_map_right_iff]
  refine forall₂_comp (fun f op q hf hq => ?_) BulkTable.columns_forall₂.flip hdeclared
  rw [hf.2]
  exact hq.type

/-- **Outbound values have their declared types.**  Whatever the rules and the store fields are, if getters and handlers
give values of their types, every parameter of a routine has the type its operation declares, a storage type, and as a
variant the one that takes anything; and every cell of a table that a mapper stages under these rules has the type of
its column. -/
theorem ParameterRoutine.sends_declared (schema : Schema α) (rules : Rules α) (target : TypeName) (objects : List α)
    (htyped : ∀ e, schema target = .entity e → ∀ object ∈ objects, e.Typed rules object) :
    (∀ source fields r, compile schema rules (.objectToParameters target source fields) = .ok r →
      ∀ object ∈ objects, ∀ qs, r.call object = .ok qs → List.Forall₂ Operation.Declares r.plan.operations qs) ∧
    ∀ settings log requests store table,
      let used := (Mapper.serveAll requests ⟨Mapper.ofSettings schema settings, log⟩).2
      used.state.rules = rules → ((BulkTable.ofEntities target objects store).perform used).1 = .ok table →
        ∀ row ∈ table.rows, List.Forall₂ (fun (f : Field) v => v.type? = some f.type) table.fields row := by
  constructor
  · intro source fields r hr object hobject qs hqs
    exact call_declares hr (fun e he => htyped e he object hobject) hqs
  · rintro settings log requests store table used rfl htable
    have hunder := Mapper.under_serveAll schema settings log requests
    rw [(Mapper.perform_ofEntities target objects store hunder).2] at htable
    exact Rules.tableOf_declares htable htyped

/-! ## A sale -/

namespace Sample

/-- A sale has a total that is stored as cents, a number that the store keeps as text, and a state. -/
def sale : Blueprint where
  name := "Sale"
  members :=
    [⟨"total", decimal, none, false⟩, ⟨"number", int32, none, false⟩, ⟨"state", .base orderStatusType, none, false⟩]
  constructors := [⟨"new", [], none⟩]

def saleObject : Assembly := ⟨"new", [], [amount 1999 2, number .int32 7, status 2]⟩

def saleStore : List Field :=
  [.column "state" (.enumeration orderStatus), .column "number" .varchar, .column "total" (.integer .int64)]

def saleRequests : List (Request Assembly) :=
  [.addValueHandler "Sale" "total" cents false, .addMemberStorage "Sale" "state" .object false]

def saleRules : Rules Assembly :=
  { Rules.ofSettings { mode := .automatic } with
    valueHandlers := Registry.empty.insert (memberKey "Sale" "total") cents
    memberStorage := Registry.empty.insert (memberKey "Sale" "state") .object }

theorem cents_set_type? {v w : Value} (h : cents.set v = .ok w) : w.type? = some cents.storage := by
  unfold cents at h
  dsimp only at h
  split at h
  · unfold centsOfAmount at h
    repeat' split at h
    all_goals cases h
    rfl
  · obtain rfl := Except.ok.inj h
    rfl
  · cases h

theorem sale_typed : sale.entity.Typed saleRules saleObject where
  get := by decide
  set := by
    intro owner name handler hfind m _ w hw
    have hinsert : saleRules.valueHandler? owner name =
        if memberKey owner name = memberKey "Sale" "total" then some cents else none := by
      rw [Rules.valueHandler?, saleRules, Registry.find?_insert]
      rfl
    rw [hinsert] at hfind
    split at hfind
    · obtain rfl := Option.some.inj hfind
      exact cents_set_type? hw
    · cases hfind

theorem exists_saleTable : ∃ table,
    saleRules.tableOf (fun _ => .entity sale.entity) "Sale" [saleObject] saleStore = .ok table := by
  have hsent : ∀ m ∈ sale.entity.members,
      ((saleRules.outward "Sale" saleStore m).send (m.get saleObject)).isOk = true := by decide
  refine Rules.exists_tableOf_iff.2 ⟨?_, fun object hobject => ?_⟩
  · exact ParameterRoutine.exists_compile_iff.2 ⟨sale.entity, rfl, List.cons_ne_nil _ _, by decide⟩
  · rw [List.mem_singleton.1 hobject]
    refine (Rules.exists_parametersFor_iff saleRules).2 ⟨sale.entity, rfl, List.cons_ne_nil _ _, by decide, ?_⟩
    intro m hm
    have hok := hsent m hm
    cases hm' : (saleRules.outward "Sale" saleStore m).send (m.get saleObject) with
    | ok v => exact ⟨v, rfl⟩
    | error e =>
      rw [hm'] at hok
      cases hok

theorem sale_declared : ∃ table, ((BulkTable.ofEntities "Sale" [saleObject] saleStore).perform (Mapper.serveAll
      saleRequests ⟨.ofSettings (fun _ => .entity sale.entity) { mode := .automatic }, []⟩).2).1 = .ok table ∧
    table.rows.length = 1 ∧
    ∀ row ∈ table.rows, List.Forall₂ (fun (f : Field) v => v.type? = some f.type) table.fields row := by
  have htyped : ∀ e, TypeDef.entity sale.entity = .entity e → ∀ object ∈ [saleObject], e.Typed saleRules object := by
    rintro e ⟨⟩ object hobject
    rw [List.mem_singleton.1 hobject]
    exact sale_typed
  obtain ⟨table, htable⟩ := exists_saleTable
  have hunder := Mapper.under_serveAll (fun _ => .entity sale.entity) { mode := .automatic } [] saleRequests
  have hstaged := (Mapper.perform_ofEntities "Sale" [saleObject] saleStore hunder).2.trans htable
  obtain ⟨-, -, -, hrows⟩ := Rules.tableOf_ok htable
  have hdeclared := ParameterRoutine.sends_declared (fun _ => .entity sale.entity) saleRules "Sale" [saleObject] htyped
  exact ⟨table, hstaged, hrows.length_eq.symm, hdeclared.2 _ _ saleRequests saleStore table rfl hstaged⟩

end Sample

end RowBinding
