import RowBinding.Proofs.Adaptation
import RowBinding.Proofs.AgreeingReaders
import RowBinding.Proofs.ConversionTypes
import RowBinding.Proofs.SharedRoutine
import RowBinding.Sample.Cents
/-!
# The types of delivered values

An operation that reads a row declares the type its value has when the handler gets it, or the destination where there
is no handler.  **The value has that type but for one case** (`handed_type_iff`): a handler on a column of its own storage
type receives what stands there as it is, and so a NULL of no type, or of another one, reaches it untouched.  On a column
of any other type the same NULL is the NULL of the storage type by then.
-/
namespace RowBinding

variable {α : Type}

theorem ValueType.zero_type? (t : ValueType) : t.zero.type? = some t := by
  cases t with
  | enumeration e =>
    obtain ⟨name, variants⟩ := e
    cases variants <;> rfl
  | _ => rfl

/-- Between different types a coercion gives the target type. -/
theorem Coercion.between_type? {mode : ConversionMode} {s t : ValueType} (hne : s ≠ t) {v w : Value}
    (h : (between mode s t).apply v = .ok w) : w.type? = some t := by
  unfold between at h
  rw [if_neg hne] at h
  split at h
  · exact Value.convert_type? h
  · exact Value.convert_type? h
  · exact Value.cast_type? h

/-- The value is of the field's type or some NULL. -/
def Field.Holds (f : Field) (v : Value) : Prop := v.isNull = true ∨ v.type? = some f.type

/-- The values are those of a row of this shape, with NULLs of any type or of none. -/
abbrev Fingerprint.Holds (p : Fingerprint) (values : List Value) : Prop := List.Forall₂ Field.Holds p.fields values

namespace Operation

/-- What an operation hands on, to its handler or to its destination: the replacement of a NULL, or else the coerced
value. -/
def handed (op : Operation) (v : Value) : Result Value :=
  match v.isNull, op.onNull with
  | true, some replacement => .ok replacement
  | _, _ => op.coercion.apply v

/-- What the destination gets for a value that was handed on. -/
def received (op : Operation) (v : Value) : Result Value :=
  match op.handler with
  | some h => h.get v
  | none => .ok v

/-- How an operation adapts the values of its column. -/
structure Adapts (op : Operation) (f : Field) : Prop where
  coercion : ∃ mode, op.coercion = .between mode f.type op.type
  handled : ∀ h, op.handler = some h → op.type = h.storage ∧ op.onNull = none
  unhandled : op.handler = none → ∃ r, op.onNull = some r ∧ r.type? = some op.type

/-- The handler gets a NULL as it stands in the row: the column has the handler's type already, so nothing coerces the
NULL, and it is not the NULL of that type. -/
def PassesNull (op : Operation) (f : Field) (v : Value) : Prop :=
  op.handler.isSome = true ∧ f.type = op.type ∧ v.isNull = true ∧ v.type? ≠ some op.type

instance (op : Operation) (f : Field) (v : Value) : Decidable (op.PassesNull f v) :=
  inferInstanceAs (Decidable (_ ∧ _ ∧ _ ∧ _))

variable {op : Operation} {f : Field} {v w : Value}

theorem exists_datum (h : ¬ v.isNull = true) : ∃ d, v = .datum d := by
  cases v with
  | datum d => exact ⟨d, rfl⟩
  | _ => exact absurd rfl h

theorem handed_of_isNull {r : Value} (hv : v.isNull = true) (hr : op.onNull = some r) : op.handed v = .ok r := by
  rw [handed, hv, hr]

theorem handed_of_onNull (hop : op.onNull = none) : op.handed v = op.coercion.apply v := by
  unfold handed
  rw [hop]
  cases v.isNull <;> rfl

theorem handed_datum {d : Datum} : op.handed (.datum d) = op.coercion.apply (.datum d) := rfl

/-- What is coerced has the declared type, unless nothing coerces it. -/
theorem Adapts.coerced_type? (h : op.Adapts f) (hw : op.coercion.apply v = .ok w) :
    f.type ≠ op.type ∧ w.type? = some op.type ∨ f.type = op.type ∧ w = v := by
  obtain ⟨mode, hmode⟩ := h.coercion
  rw [hmode] at hw
  by_cases heq : f.type = op.type
  · rw [heq, Coercion.between_self] at hw
    exact .inr ⟨heq, (Except.ok.inj hw).symm⟩
  · exact .inl ⟨heq, Coercion.between_type? heq hw⟩

/-- **What is handed on has the declared type, unless it is a NULL that is passed on.** -/
theorem Adapts.handed_type_iff (h : op.Adapts f) (hv : f.Holds v) (hw : op.handed v = .ok w) :
    w.type? = some op.type ↔ ¬ op.PassesNull f v := by
  cases hhandler : op.handler with
  | none =>
    have hno : ¬ op.PassesNull f v := by simp [PassesNull, hhandler]
    refine iff_of_true ?_ hno
    by_cases hnull : v.isNull = true
    · obtain ⟨r, hr, htype⟩ := h.unhandled hhandler
      obtain rfl := Except.ok.inj ((handed_of_isNull hnull hr).symm.trans hw)
      exact htype
    · obtain ⟨d, rfl⟩ := exists_datum hnull
      have hfield : (Value.datum d).type? = some f.type := hv.resolve_left hnull
      rcases h.coerced_type? (handed_datum.symm.trans hw) with ⟨-, htype⟩ | ⟨heq, rfl⟩
      · exact htype
      · rw [hfield, heq]
  | some handler =>
    have hsome : op.handler.isSome = true := by rw [hhandler]; rfl
    have hcoerced := h.coerced_type? ((handed_of_onNull (h.handled handler hhandler).2).symm.trans hw)
    rcases hcoerced with ⟨hne, htype⟩ | ⟨heq, rfl⟩
    · exact iff_of_true htype fun hpass => hne hpass.2.1
    · constructor
      · exact fun htype hpass => hpass.2.2.2 htype
      · intro hno
        by_contra hother
        rcases hv with hnull | htype
        · exact hno ⟨hsome, heq, hnull, hother⟩
        · exact hother (htype.trans (congrArg some heq))

/-- An operation delivers what the handler makes of what it is handed. -/
theorem Adapts.deliver_eq (h : op.Adapts f) (v : Value) : op.deliver v = op.handed v >>= op.received := by
  have hadapt : op.adapt v = op.coercion.apply v >>= op.received := rfl
  cases hhandler : op.handler with
  | some handler =>
    rw [handed_of_onNull (h.handled handler hhandler).2, ← hadapt, deliver, (h.handled handler hhandler).2]
    cases v.isNull <;> rfl
  | none =>
    obtain ⟨r, hr, -⟩ := h.unhandled hhandler
    by_cases hnull : v.isNull = true
    · have hreceived : op.received r = .ok r := by rw [received, hhandler]
      rw [deliver_null hnull hr, handed_of_isNull hnull hr]
      exact hreceived.symm
    · obtain ⟨d, rfl⟩ := exists_datum hnull
      exact hadapt

end Operation

/-! ## Plans -/

namespace Plan

variable {rules : Rules α} {d : TypeDef α} {p : Fingerprint}

theorem adapts_inboundOperation (rules : Rules α) (target : TypeName) (member : String) (f : Field) (source : Nat)
    (t : ValueType) (nullable : Bool) (destination : Slot) :
    (inboundOperation (rules.resolveInbound target member t f.type) f source t nullable destination).Adapts f where
  coercion := ⟨rules.settings.mode, rfl⟩
  handled h hhandler := by
    have hfind : rules.valueHandler? target member = some h := hhandler
    constructor
    · show ((rules.valueHandler? target member).map (·.storage)).getD t = h.storage
      rw [hfind]
      rfl
    · show nullReplacement nullable (rules.valueHandler? target member).isSome t = none
      rw [hfind]
      rfl
  unhandled hhandler := by
    have hfind : rules.valueHandler? target member = none := hhandler
    have htype : ((rules.valueHandler? target member).map (·.storage)).getD t = t := by
      rw [hfind]
      rfl
    refine ⟨if nullable then t.empty else t.zero, ?_, ?_⟩
    · show nullReplacement nullable (rules.valueHandler? target member).isSome t = _
      rw [hfind]
      cases nullable <;> rfl
    · show _ = some (((rules.valueHandler? target member).map (·.storage)).getD t)
      rw [htype]
      cases nullable with
      | true => rfl
      | false => exact t.zero_type?

/-- **Every operation of a plan reads a field of the shape and adapts its values.** -/
theorem ofRow_adapts {plan : Plan} (h : ofRow rules d p = .ok plan) {op : Operation} (hop : op ∈ plan.operations) :
    ∃ f, p.fields[op.source]? = some f ∧ op.Adapts f := by
  cases d with
  | scalar s =>
    obtain ⟨f, hf, rfl⟩ := ofRow_scalar h
    rw [List.mem_singleton.1 hop]
    exact ⟨f, by rw [hf]; rfl, adapts_inboundOperation ..⟩
  | entity e =>
    obtain ⟨i, c, args, -, -, -, -, -, -, hops, hleft, hright⟩ := ofRow_entity h
    rw [hops] at hop
    rcases List.mem_append.1 hop with hop | hop
    · obtain ⟨a, -, ha⟩ := exists_of_mem_forall₂ hleft.flip hop
      obtain ⟨f, param, hf, -, rfl⟩ := argumentOperation?_eq_some ha
      exact ⟨f, hf, adapts_inboundOperation ..⟩
    · obtain ⟨b, -, hb⟩ := exists_of_mem_forall₂ hright.flip hop
      obtain ⟨f, m, hf, -, rfl⟩ := assignmentOperation?_eq_some hb
      exact ⟨f, hf, adapts_inboundOperation ..⟩

/-- **An operation hands on a value of its declared type, unless it passes a NULL on.**  That holds on every row that a
run meets, since what an operation leaves behind is again a row of values of their fields' types and of NULLs. -/
theorem ofRow_handed_type (rules : Rules α) (d : TypeDef α) (p : Fingerprint) (plan : Plan)
    (h : ofRow rules d p = .ok plan) (values : List Value) (hrow : p.Holds values)
    (op : Operation) (hop : op ∈ plan.operations) :
    ∃ f v, p.fields[op.source]? = some f ∧ values[op.source]? = some v ∧
      op.run values = (op.handed v >>= op.received).map (fun w => (w, values.set op.source .untyped)) ∧
      p.Holds (values.set op.source .untyped) ∧
      (∀ handler, op.handler = some handler → op.type = handler.storage) ∧
      ∀ w, op.handed v = .ok w → (w.type? = some op.type ↔ ¬ op.PassesNull f v) := by
  obtain ⟨f, hf, hadapts⟩ := ofRow_adapts h hop
  obtain ⟨v, hv, hholds⟩ := forall₂_getElem?_left hrow hf
  refine ⟨f, v, hf, hv, ?_, forall₂_set hrow (fun _ _ => .inl rfl) op.source, ?_, ?_⟩
  · rw [Operation.run_of_getElem? hv, hadapts.deliver_eq]
  · exact fun handler hhandler => (hadapts.handled handler hhandler).1
  · exact fun w hw => hadapts.handed_type_iff hholds hw

/-! ## A NULL of no type in two columns -/

/-- An entity with an amount of money that may be missing. -/
def priced : Blueprint where
  name := "Priced"
  members := [⟨"amount", .option (.base .decimal), none, false⟩]
  constructors := [⟨"new", [], none⟩]

/-- The amount is stored as cents. -/
def pricedRules : Rules Assembly :=
  { Rules.ofSettings {} with valueHandlers := Registry.empty.insert (memberKey "Priced" "amount") Sample.cents }

def pricedShape (k : IntKind) : Fingerprint := .rowToObject "Priced" [.column "amount" (.integer k)]

/-- What the only operation of a plan hands on and delivers for the NULL of no type. -/
theorem exists_priced {k : IntKind} {w : Value} {r : Result Value}
    (h : (ofRow pricedRules (.entity priced.entity) (pricedShape k)).map (fun plan =>
      plan.operations.map fun op => (op.source, op.type, op.handed .untyped, op.deliver .untyped)) =
        .ok [(0, .integer .int64, .ok w, r)]) :
    ∃ plan op, ofRow pricedRules (.entity priced.entity) (pricedShape k) = .ok plan ∧ op ∈ plan.operations ∧
      op.source = 0 ∧ op.type = .integer .int64 ∧ op.handed .untyped = .ok w ∧ op.deliver .untyped = r := by
  obtain ⟨plan, hplan, hops⟩ := Result.map_eq_ok_iff.1 h
  obtain ⟨op, hop, hdata⟩ := List.mem_map.1 (hops ▸ List.mem_singleton_self _ : _ ∈ plan.operations.map _)
  simp only [Prod.mk.injEq] at hdata
  exact ⟨plan, op, hplan, hop, hdata⟩

theorem holds_untyped (k : IntKind) : (pricedShape k).Holds [.untyped] := .cons (.inl rfl) .nil

/-- On the column of the handler's own type the NULL of no type stays one, and the handler refuses it. -/
theorem handed_untyped_null : ∃ plan op, ofRow pricedRules (.entity priced.entity) (pricedShape .int64) = .ok plan ∧
    op ∈ plan.operations ∧ (pricedShape .int64).Holds [.untyped] ∧ op.handed .untyped = .ok .untyped ∧
    Value.untyped.type? ≠ some op.type ∧ op.deliver .untyped = .error (.foreignValue "cents" .untyped) := by
  obtain ⟨plan, op, hplan, hop, -, -, hhanded, hdeliver⟩ := exists_priced (k := .int64) (w := .untyped)
    (r := .error (.foreignValue "cents" .untyped)) (by decide)
  exact ⟨plan, op, hplan, hop, holds_untyped _, hhanded, nofun, hdeliver⟩

/-- On a column of another type it is the NULL of the handler's type by then. -/
theorem handed_coerced_null : ∃ plan op, ofRow pricedRules (.entity priced.entity) (pricedShape .int32) = .ok plan ∧
    op ∈ plan.operations ∧ (pricedShape .int32).Holds [.untyped] ∧ op.handed .untyped = .ok (.null (.integer .int64)) ∧
    (Value.null (.integer .int64)).type? = some op.type := by
  obtain ⟨plan, op, hplan, hop, hsource, htype, hhanded, -⟩ := exists_priced (k := .int32)
    (w := .null (.integer .int64)) (r := .ok (.null .decimal)) (by decide)
  have hrow := holds_untyped .int32
  obtain ⟨f, v, hf, hv, -, -, -, hiff⟩ := ofRow_handed_type pricedRules (.entity priced.entity) (pricedShape .int32) plan
    hplan [.untyped] hrow op hop
  rw [hsource] at hf hv
  obtain rfl : Field.column "amount" (.integer .int32) = f := Option.some.inj hf
  obtain rfl : Value.untyped = v := Option.some.inj hv
  refine ⟨plan, op, hplan, hop, hrow, hhanded, (hiff _ hhanded).2 fun hpass => ?_⟩
  have hsame : ValueType.integer .int32 = .integer .int64 := hpass.2.1.trans htype
  simp at hsame

end Plan

/-! ## Whole runs

A handler that gives up on values of another type shows what it gets: where guarding changes nothing, no handler has ever
seen such a value. -/

/-- The handler ends the computation when it gets a value that is not of its storage type. -/
def ValueHandler.guarded (h : ValueHandler) : ValueHandler :=
  { h with get := fun v => if v.type? = some h.storage then h.get v else .error .abort }

def Operation.guarded (op : Operation) : Operation := { op with handler := op.handler.map ValueHandler.guarded }

def Plan.guarded (plan : Plan) : Plan := { plan with operations := plan.operations.map Operation.guarded }

def RowRoutine.guarded (r : RowRoutine α) : RowRoutine α := { r with plan := r.plan.guarded }

/-- A handler of the operation sits on a column of another type. -/
def Operation.Coerces (op : Operation) (f : Field) : Prop :=
  ∀ handler, op.handler = some handler → f.type ≠ handler.storage

namespace Operation

variable {op : Operation} {f : Field} {v w : Value}

theorem received_guarded (h : ∀ handler, op.handler = some handler → w.type? = some handler.storage) :
    op.guarded.received w = op.received w := by
  cases hhandler : op.handler with
  | none => simp only [received, guarded, hhandler, Option.map_none]
  | some handler =>
    simp only [received, guarded, hhandler, Option.map_some, ValueHandler.guarded, h handler hhandler, if_true]

theorem Adapts.guarded (h : op.Adapts f) : op.guarded.Adapts f where
  coercion := h.coercion
  handled := by
    intro handler hhandler
    obtain ⟨inner, hinner, rfl⟩ := Option.map_eq_some_iff.1 hhandler
    exact h.handled inner hinner
  unhandled hhandler := h.unhandled (Option.map_eq_none_iff.1 hhandler)

theorem Adapts.deliver_guarded (h : op.Adapts f) (hc : op.Coerces f) (hv : f.Holds v) :
    op.guarded.deliver v = op.deliver v := by
  have hhanded : op.guarded.handed v = op.handed v := rfl
  rw [h.guarded.deliver_eq, h.deliver_eq, hhanded]
  cases hw : op.handed v with
  | error e => rfl
  | ok w =>
    refine received_guarded fun handler hhandler => ?_
    have hstorage := (h.handled handler hhandler).1
    rw [← hstorage]
    refine (h.handed_type_iff hv hw).2 fun hpass => hc handler hhandler ?_
    rw [hpass.2.1, hstorage]

end Operation

namespace RowRoutine

theorem run_guarded {p : Fingerprint} {op : Operation} {f : Field} (hf : p.fields[op.source]? = some f)
    (h : op.Adapts f) (hc : op.Coerces f) : RowReader.AgreeOn p.Holds op.guarded.run op.run := by
  intro values hrow
  obtain ⟨v, hv, hholds⟩ := forall₂_getElem?_left hrow hf
  have hguarded : op.guarded.run values = (op.guarded.deliver v).map fun w => (w, values.set op.source .untyped) :=
    Operation.run_of_getElem? hv
  rw [hguarded, h.deliver_guarded hc hholds, Operation.run_of_getElem? hv]
  refine ⟨rfl, fun w rest hw => ?_⟩
  obtain ⟨w', -, hw⟩ := Result.map_eq_ok_iff.1 hw
  obtain ⟨-, rfl⟩ : w' = w ∧ values.set op.source .untyped = rest := by simpa using hw
  exact forall₂_set hrow (fun _ _ => .inl rfl) op.source

theorem produce_guarded {I : List Value → Prop} {plan : Plan}
    (h : ∀ op ∈ plan.operations, RowReader.AgreeOn I op.guarded.run op.run) (body : RowBody α) :
    RowReader.AgreeOn I (produce plan.guarded body) (produce plan body) := by
  have hguarded : plan.guarded.operations = plan.operations.map Operation.guarded := rfl
  refine RowReader.composes_agreeOn.produce (a := plan.guarded) (b := plan) rfl (RowReader.agreeOn_lift _) ?_ body
  rw [hguarded, List.forall₂_map_left_iff]
  exact List.forall₂_same.2 fun op hop => ⟨rfl, fun use => (h op hop).reading _ _ use⟩

/-- **Handlers on columns of other types see nothing but values of their storage type**, whatever NULLs stand in the
row. -/
theorem call_guarded {schema : Schema α} {rules : Rules α} {p : Fingerprint} {r : RowRoutine α}
    (h : compile schema rules p = .ok r)
    (hc : ∀ op ∈ r.plan.operations, ∀ f, p.fields[op.source]? = some f → op.Coerces f) (row : Row)
    (hrow : p.Holds row.values) : r.guarded.call row = r.call row := by
  obtain ⟨plan, hplan, hr⟩ := Result.bind_eq_ok_iff.1 h
  obtain ⟨body, -, hr⟩ := Result.bind_eq_ok_iff.1 hr
  obtain rfl := Except.ok.inj hr
  have hrun : ∀ op ∈ plan.operations, RowReader.AgreeOn p.Holds op.guarded.run op.run := by
    intro op hop
    obtain ⟨f, hf, hadapts⟩ := Plan.ofRow_adapts hplan hop
    exact run_guarded hf hadapts (hc op hop f hf)
  have hproduce := (produce_guarded hrun body row.values hrow).1
  rw [call_eq, call_eq]
  unfold guarded
  dsimp only
  rw [hproduce]
  rfl

end RowRoutine

end RowBinding
