import RowBinding.Proofs.DeliveredTypes
import RowBinding.Proofs.ModularCasts
import RowBinding.Proofs.NearestFloats
import RowBinding.Proofs.StoreFieldTypes
import RowBinding.Sample.Checks
/-!
# What the modes agree on

One mode casts numbers and the other converts them, and a conversion fails where a cast reduces the number or cuts it off.
**Where a conversion of a number succeeds, the cast does the same** (`Value.cast_of_convert`): the check is passed by just
the numbers that are their own residues, and past the check both take the same way.  So a row that was read under checks
is read to the same object without them (`RowRoutine.modes_agree`).
-/
namespace RowBinding

variable {α β γ : Type}

/-- The types whose values stand for numbers: those of numbers, truth values, and variants. -/
def ValueType.standsForNumbers : ValueType → Bool
  | .boolean | .enumeration _ => true
  | t => t.isNumeric

/-! ## Values -/

namespace Datum

variable {d r : Datum} {t : ValueType}

theorem exists_number? (h : d.type.standsForNumbers = true) : ∃ x, d.number? = some x := by
  cases d with
  | boolean | integer | float | decimal | enumeration => exact ⟨_, rfl⟩
  | _ => cases h

/-- An integer that a type has is its own residue there. -/
theorem ofWrapped?_of_ofChecked (ht : t.isNumeric = true) {n : ℤ} (h : ofChecked t n = .ok (some r)) :
    ofWrapped? t n = some r := by
  cases t with
  | integer k =>
    obtain ⟨b, rfl, rfl⟩ := ofChecked_integer_iff.1 h
    rw [ofWrapped?, Bounded.wrapped_eq_self]
  | float w => exact Except.ok.inj h
  | decimal =>
    simp only [ofChecked] at h
    split at h
    · rename_i x hx
      rw [ofWrapped?, hx]
      exact Except.ok.inj h
    · cases h
  | _ => cases ht

/-- A number that passes its check is taken as it is. -/
theorem ofNumber?_of_ofCheckedNumber (ht : t.isNumeric = true) {x : Number} (h : ofCheckedNumber t x = .ok (some r)) :
    ofNumber? t x = some r := by
  cases x with
  | integer n => exact ofWrapped?_of_ofChecked ht h
  | float x =>
    cases t with
    | integer k =>
      simp only [ofCheckedNumber, ofCheckedFloat] at h
      split at h
      · exact ofWrapped?_of_ofChecked ht h
      · cases h
    | float w =>
      cases w with
      | single =>
        simp only [ofCheckedNumber, ofCheckedFloat] at h
        split at h
        · cases h
        · exact Except.ok.inj h
      | double =>
        rw [ofNumber?, Binary.toWidth_self]
        exact Except.ok.inj h
    | decimal => exact Except.ok.inj h
    | _ => cases ht
  | decimal x =>
    cases t with
    | integer k | decimal =>
      simp only [ofCheckedNumber, ofCheckedDecimal] at h
      split at h
      · exact ofWrapped?_of_ofChecked ht h
      · cases h
    | float w => cases w <;> exact Except.ok.inj h
    | _ => cases ht

theorem convertTo_isNumeric (hd : d.type.standsForNumbers = true) (ht : t.isNumeric = true) :
    d.convertTo t = d.convertNumber t := by
  cases d with
  | boolean | integer | float | decimal | enumeration =>
    cases t with
    | integer | float | decimal => rfl
    | _ => cases ht
  | _ => cases hd

theorem cast_of_convert (hd : d.type.standsForNumbers = true) (ht : t.isNumeric = true) (h : d.convert t = .ok r) :
    d.cast t = .ok r := by
  unfold convert at h
  unfold cast
  by_cases hsame : d.type = t
  · rw [if_pos hsame] at h ⊢
    exact h
  · obtain ⟨x, hx⟩ := exists_number? hd
    rw [if_neg hsame, convertTo_isNumeric hd ht, convertNumber_eq_ok hx] at h
    rw [if_neg hsame, hx, Option.bind_some, ofNumber?_of_ofCheckedNumber ht h]

end Datum

namespace Value

variable {v w : Value} {s t : ValueType}

/-- **A cast does what a conversion of numbers does, where that succeeds.** -/
theorem cast_of_convert (hv : v.type? = some s) (hs : s.standsForNumbers = true) (ht : t.isNumeric = true)
    (h : v.convert t = .ok w) : v.cast t = .ok w := by
  cases v with
  | datum d =>
    obtain rfl := Option.some.inj hv
    obtain ⟨r, hr, rfl⟩ := convert_datum_eq_ok.1 h
    rw [cast, Datum.cast_of_convert hs ht hr]
    rfl
  | _ => exact h

end Value

/-! ## Rules -/

/-- The rules with another mode. -/
def Rules.inMode (mode : ConversionMode) (rules : Rules α) : Rules α :=
  { rules with settings := { rules.settings with mode := mode } }

namespace Coercion

variable {v w : Value} {s t : ValueType}

/-- The modes differ between the types in nothing but how a number becomes another one. -/
def ModesAgree (s t : ValueType) : Prop :=
  s = t ∨ t.isEnum = true ∨ s.standsForNumbers = true ∧ t.isNumeric = true

theorem between_isNumeric (hne : s ≠ t) (ht : t.isNumeric = true) :
    between .automatic s t = .convert t ∧ between .plain s t = .cast t := by
  cases t with
  | integer | float | decimal => exact ⟨if_neg hne, if_neg hne⟩
  | _ => cases ht

theorem between_plain_of_automatic (h : ModesAgree s t) (hv : v.isNull = true ∨ v.type? = some s)
    (hw : (between .automatic s t).apply v = .ok w) : (between .plain s t).apply v = .ok w := by
  by_cases hsame : s = t
  · rwa [hsame, between_self] at hw ⊢
  · rcases h with h | henum | ⟨hs, ht⟩
    · exact absurd h hsame
    · cases t with
      | enumeration e => rwa [between_enumeration _ hsame] at hw ⊢
      | _ => cases henum
    · obtain ⟨hautomatic, hplain⟩ := between_isNumeric hsame ht
      rw [hautomatic] at hw
      rw [hplain]
      cases v with
      | datum d =>
        have htype : (Value.datum d).type? = some s := hv.resolve_left nofun
        exact Value.cast_of_convert htype hs ht hw
      | _ => exact hw

end Coercion

namespace RowReader

/-- Where the first reader succeeds on a row with a property, the second does the same and the property stays. -/
def ExtendedBy (I : List Value → Prop) (m n : RowReader β) : Prop :=
  ∀ values, I values → ∀ b rest, m values = .ok (b, rest) → n values = .ok (b, rest) ∧ I rest

variable {I : List Value → Prop}

theorem extendedBy_lift (r : Result β) : ExtendedBy I (liftM r) (liftM r) := by
  intro values hI b rest h
  exact ⟨h, (agreeOn_lift r values hI).2 b rest h⟩

theorem ExtendedBy.bind {m n : RowReader β} {k l : β → RowReader γ} (h : ExtendedBy I m n)
    (hkl : ∀ b, ExtendedBy I (k b) (l b)) : ExtendedBy I (m >>= k) (n >>= l) := by
  intro values hI c rest hc
  obtain ⟨b, between, hb, hc⟩ := bind_eq_ok hc
  obtain ⟨hn, hbetween⟩ := h values hI b between hb
  obtain ⟨hl, hrest⟩ := hkl b between hbetween c rest hc
  have hbind : (n >>= l) values = (n values >>= fun x => l x.1 x.2) := rfl
  rw [hbind, hn]
  exact ⟨hl, hrest⟩

theorem composes_extendedBy : Composes (ExtendedBy I) := ⟨extendedBy_lift, ExtendedBy.bind⟩

theorem ExtendedBy.reading {m n : RowReader Value} (h : ExtendedBy I m n) (target field : String)
    (use : Value → Result β) : ExtendedBy I (reading target field m use) (reading target field n use) := by
  intro values hI b rest hread
  obtain ⟨⟨v, between⟩, hv, hb⟩ := Result.bind_eq_ok_iff.1 (Result.inField_eq_ok hread)
  obtain ⟨c, -, hb⟩ := Result.bind_eq_ok_iff.1 hb
  obtain ⟨-, rfl⟩ : c = b ∧ between = rest := by simpa using Except.ok.inj hb
  obtain ⟨hn, hrest⟩ := h values hI v between hv
  refine ⟨?_, hrest⟩
  unfold RowReader.reading at hread ⊢
  rwa [hn, ← hv]

end RowReader

/-! ## Plans -/

/-- The operation with another coercion. -/
def Operation.withCoercion (op : Operation) (c : Coercion) : Operation := { op with coercion := c }

/-- The operation with the coercion of another mode. -/
def Operation.inMode (p : Fingerprint) (mode : ConversionMode) (op : Operation) : Operation :=
  match p.fields[op.source]? with
  | some f => op.withCoercion (.between mode f.type op.type)
  | none => op

theorem Operation.inMode_eq {p : Fingerprint} {op : Operation} {f : Field} (hf : p.fields[op.source]? = some f)
    (mode : ConversionMode) : op.inMode p mode = op.withCoercion (.between mode f.type op.type) := by
  rw [inMode, hf]

def Plan.inMode (mode : ConversionMode) (plan : Plan) : Plan :=
  { plan with operations := plan.operations.map (Operation.inMode plan.fingerprint mode) }

def RowRoutine.inMode (mode : ConversionMode) (r : RowRoutine α) : RowRoutine α := { r with plan := r.plan.inMode mode }

namespace Plan

variable {p : Fingerprint}

theorem inboundOperation_inMode {source : Nat} {f : Field} (hf : p.fields[source]? = some f) (mode : ConversionMode)
    (rules : Rules α) (target : TypeName) (member : String) (t : ValueType) (nullable : Bool) (destination : Slot) :
    inboundOperation ((rules.inMode mode).resolveInbound target member t f.type) f source t nullable destination =
      Operation.inMode p mode
        (inboundOperation (rules.resolveInbound target member t f.type) f source t nullable destination) := by
  rw [Operation.inMode_eq (f := f) hf]
  rfl

theorem argumentOperation?_inMode (mode : ConversionMode) (rules : Rules α) (e : EntityDef α) (c : ConstructorDef α)
    (a : ArgumentBinding) : argumentOperation? (rules.inMode mode) p e c a =
      (argumentOperation? rules p e c a).map (Operation.inMode p mode) := by
  unfold argumentOperation?
  cases hf : p.fields[a.field]? with
  | none => rfl
  | some f =>
    cases c.params[a.param]? with
    | none => rfl
    | some param => exact congrArg some (inboundOperation_inMode hf ..)

theorem assignmentOperation?_inMode (mode : ConversionMode) (rules : Rules α) (e : EntityDef α) (b : MemberBinding) :
    assignmentOperation? (rules.inMode mode) p e b =
      (assignmentOperation? rules p e b).map (Operation.inMode p mode) := by
  unfold assignmentOperation?
  cases hf : p.fields[b.field]? with
  | none => rfl
  | some f =>
    cases e.members[b.member]? with
    | none => rfl
    | some m => exact congrArg some (inboundOperation_inMode hf ..)

theorem inboundOperations_inMode (mode : ConversionMode) (rules : Rules α) (d : TypeDef α) (a : ShapeAnalysis) :
    inboundOperations (rules.inMode mode) p d a = (inboundOperations rules p d a).map (Operation.inMode p mode) := by
  cases d with
  | scalar s =>
    unfold inboundOperations scalarOperation
    cases hfields : p.fields with
    | nil => rfl
    | cons f fs =>
      have hf : p.fields[0]? = some f := by rw [hfields]; rfl
      exact congrArg (fun op => [op]) (inboundOperation_inMode hf ..)
  | entity e =>
    unfold inboundOperations
    dsimp only
    rw [List.map_append, List.map_filterMap, funext (assignmentOperation?_inMode mode rules e)]
    congr 1
    split
    · rw [List.map_filterMap, funext (argumentOperation?_inMode mode rules e _)]
    · rfl

/-- **Another mode gives the same plan with other coercions.** -/
theorem ofRow_inMode (mode : ConversionMode) (rules : Rules α) (d : TypeDef α) (p : Fingerprint) :
    ofRow (rules.inMode mode) d p = (ofRow rules d p).map (inMode mode) := by
  unfold ofRow
  cases d.analyzeRow p with
  | error e => rfl
  | ok a =>
    have hoperations := inboundOperations_inMode (p := p) mode rules d a
    exact congrArg (fun ops => (.ok ⟨p, a.mode, a.selected, ops⟩ : Result Plan)) hoperations

end Plan

/-! ## Runs -/

namespace Operation

variable {op : Operation} {c c' : Coercion} {v w : Value}

/-- What an operation delivers it delivers with any coercion that does the same to the value. -/
theorem deliver_withCoercion (hc : ∀ x, c.apply v = .ok x → c'.apply v = .ok x)
    (h : (op.withCoercion c).deliver v = .ok w) : (op.withCoercion c').deliver v = .ok w := by
  have hadapt : (op.withCoercion c).adapt v = .ok w → (op.withCoercion c').adapt v = .ok w := by
    intro hw
    obtain ⟨x, hx, hw⟩ := Result.bind_eq_ok_iff.1 hw
    exact Result.bind_eq_ok_iff.2 ⟨x, hc x hx, hw⟩
  unfold deliver at h ⊢
  cases hnull : v.isNull with
  | false =>
    rw [hnull] at h
    exact hadapt h
  | true =>
    rw [hnull] at h
    cases hreplacement : op.onNull with
    | none =>
      have hnone : ∀ c, (op.withCoercion c).onNull = none := fun _ => hreplacement
      rw [hnone] at h ⊢
      exact hadapt h
    | some replacement =>
      have hsome : ∀ c, (op.withCoercion c).onNull = some replacement := fun _ => hreplacement
      rw [hsome] at h ⊢
      exact h

theorem run_inMode {p : Fingerprint} {f : Field} (hf : p.fields[op.source]? = some f)
    (h : Coercion.ModesAgree f.type op.type) :
    RowReader.ExtendedBy p.Holds (op.inMode p .automatic).run (op.inMode p .plain).run := by
  intro values hrow w rest hrun
  obtain ⟨v, hv, hholds⟩ := forall₂_getElem?_left hrow hf
  have hsource : ∀ c, values[(op.withCoercion c).source]? = some v := fun _ => hv
  rw [inMode_eq hf, run_of_getElem? (hsource _)] at hrun ⊢
  obtain ⟨x, hx, hrest⟩ := Result.map_eq_ok_iff.1 hrun
  obtain ⟨rfl, rfl⟩ := Prod.mk.inj hrest
  rw [deliver_withCoercion (fun y hy => Coercion.between_plain_of_automatic h hholds hy) hx]
  exact ⟨rfl, forall₂_set hrow (fun _ _ => .inl rfl) op.source⟩

end Operation

namespace RowRoutine

/-- **Another mode gives the same routine with other coercions.** -/
theorem compile_inMode {schema : Schema α} {rules : Rules α} {p : Fingerprint} {r : RowRoutine α}
    (h : compile schema rules p = .ok r) (mode : ConversionMode) :
    compile schema (rules.inMode mode) p = .ok (r.inMode mode) := by
  obtain ⟨plan, hplan, h⟩ := Result.bind_eq_ok_iff.1 h
  obtain ⟨body, hbody, h⟩ := Result.bind_eq_ok_iff.1 h
  obtain rfl := Except.ok.inj h
  have hother : Plan.ofRow (rules.inMode mode) (schema p.target) p = .ok (plan.inMode mode) := by
    rw [Plan.ofRow_inMode, hplan]
    rfl
  exact Result.bind_eq_ok_iff.2 ⟨_, hother, Result.bind_eq_ok_iff.2 ⟨body, hbody, rfl⟩⟩

/-- A row that is read under checks is read to the same object without them. -/
theorem call_inMode {r : RowRoutine α} (hops : ∀ op ∈ r.plan.operations, ∃ f,
      r.plan.fingerprint.fields[op.source]? = some f ∧ Coercion.ModesAgree f.type op.type)
    {row : Row} (hrow : r.plan.fingerprint.Holds row.values) {object : α}
    (h : (r.inMode .automatic).call row = .ok object) : (r.inMode .plain).call row = .ok object := by
  have hproduce : RowReader.ExtendedBy r.plan.fingerprint.Holds (produce (r.plan.inMode .automatic) r.body)
      (produce (r.plan.inMode .plain) r.body) := by
    refine RowReader.composes_extendedBy.produce (a := r.plan.inMode .automatic) (b := r.plan.inMode .plain) rfl
      (RowReader.extendedBy_lift _) ?_ r.body
    unfold Plan.inMode
    rw [List.forall₂_map_left_iff, List.forall₂_map_right_iff]
    refine List.forall₂_same.2 fun op hop => ?_
    obtain ⟨f, hf, hagree⟩ := hops op hop
    have hrun := Operation.run_inMode hf hagree
    rw [Operation.inMode_eq hf, Operation.inMode_eq hf] at hrun ⊢
    exact ⟨rfl, fun use => hrun.reading _ _ use⟩
  rw [call_eq] at h ⊢
  split at h
  · rename_i hlength
    obtain ⟨built, hbuilt, hfinish⟩ := Result.bind_eq_ok_iff.1 h
    have hplain := (hproduce row.values hrow built.1 built.2 hbuilt).1
    exact (if_pos hlength).trans (Result.bind_eq_ok_iff.2 ⟨built, hplain, hfinish⟩)
  · cases h

end RowRoutine

/-! ## On the way out -/

theorem representation?_of_isEnum_false {t : ValueType} (h : t.isEnum = false) (storage : Option StorageType) :
    representation? t storage = none := by
  rw [representation?, h]
  rfl

namespace Rules

/-- Without checks a value that is no variant leaves as it is. -/
theorem resolveOutbound_plain {rules : Rules α} (h : rules.settings.mode = .plain) (members : List OutboundMember)
    (memberType : ValueType) (fieldType? : Option ValueType)
    (hown : (rules.outboundType members memberType).isEnum = false) :
    (rules.resolveOutbound members memberType fieldType?).coercion = .identity := by
  have htoward : ∀ own, rules.towardField own fieldType? = (own, .identity) := by
    intro own
    unfold towardField
    rw [h]
  have hcoercion : (rules.resolveOutbound members memberType fieldType?).coercion =
      (rendered (rules.towardField (rules.outboundType members memberType) fieldType?).1
        (rules.towardField (rules.outboundType members memberType) fieldType?).2
        (rules.storageOf members (rules.towardField (rules.outboundType members memberType) fieldType?).1)).2 := rfl
  rw [hcoercion, htoward, rendered_eq, representation?_of_isEnum_false hown]

/-- With checks a number leaves as its cast to the type of the store field. -/
theorem cast_of_resolveOutbound (rules : Rules α) (h : rules.settings.mode = .automatic)
    (members : List OutboundMember) (memberType : ValueType)
    (hown : (rules.outboundType members memberType).standsForNumbers = true) {t : ValueType} (ht : t.isNumeric = true)
    {v w : Value} (hv : v.type? = some (rules.outboundType members memberType))
    (hw : (rules.resolveOutbound members memberType (some t)).coercion.apply v = .ok w) : v.cast t = .ok w := by
  have henum : t.isEnum = false := by
    cases t with
    | enumeration e => cases ht
    | _ => rfl
  rw [(resolveOutbound_automatic h members memberType t).2, representation?_of_isEnum_false henum] at hw
  dsimp only at hw
  split at hw
  · rename_i hsame
    obtain rfl := Except.ok.inj hw
    exact Value.lawful_cast.unchanged v t (hv.trans (congrArg some hsame.symm))
  · exact Value.cast_of_convert hv hown ht hw

end Rules

namespace RowRoutine

/-- **Without checks no number changes that passed them.**
- The cast of a value that stands for a number does what its conversion does, where that succeeds.
- So a row that is read in automatic mode is read to the same object in plain mode, if the columns hold the types of
  their destinations or both hold numbers; into variants both modes check alike.
- In the other direction plain mode sends a number as it is, and automatic mode sends its cast. -/
theorem modes_agree (schema : Schema α) (rules : Rules α) :
    (∀ (v w : Value) (s t : ValueType), v.type? = some s → s.standsForNumbers = true → t.isNumeric = true →
      v.convert t = .ok w → v.cast t = .ok w) ∧
    (∀ p r, compile schema (rules.inMode .automatic) p = .ok r →
      (∀ op ∈ r.plan.operations, ∀ f, p.fields[op.source]? = some f → Coercion.ModesAgree f.type op.type) →
      ∃ s, compile schema (rules.inMode .plain) p = .ok s ∧
        ∀ row object, p.Holds row.values → r.call row = .ok object → s.call row = .ok object) ∧
    ∀ members memberType t, (rules.outboundType members memberType).standsForNumbers = true →
      (rules.outboundType members memberType).isEnum = false → t.isNumeric = true →
      ((rules.inMode .plain).resolveOutbound members memberType (some t)).coercion = .identity ∧
      ∀ v w, v.type? = some (rules.outboundType members memberType) →
        ((rules.inMode .automatic).resolveOutbound members memberType (some t)).coercion.apply v = .ok w →
        v.cast t = .ok w := by
  refine ⟨fun v w s t hv hs ht h => ?_, fun p r hr hnumbers => ?_, fun members memberType t hown henum ht => ?_⟩
  · exact Value.cast_of_convert hv hs ht h
  · have hplan := (compile_eq_ok hr).1
    have hfingerprint : r.plan.fingerprint = p := compile_fingerprint hr
    have hself : r.inMode .automatic = r := (Except.ok.inj (hr.symm.trans (compile_inMode hr .automatic))).symm
    refine ⟨r.inMode .plain, compile_inMode hr .plain, fun row object hrow hcall => ?_⟩
    rw [← hself] at hcall
    refine call_inMode (fun op hop => ?_) (hfingerprint ▸ hrow) hcall
    obtain ⟨f, hf, -⟩ := Plan.ofRow_adapts hplan hop
    exact ⟨f, by rw [hfingerprint]; exact hf, hnumbers op hop f hf⟩
  · refine ⟨Rules.resolveOutbound_plain rfl members memberType (some t) henum, fun v w hv hw => ?_⟩
    exact Rules.cast_of_resolveOutbound (rules.inMode .automatic) rfl members memberType hown ht hv hw

/-- A measurement in wider columns than it has members. -/
def wideColumns : Fingerprint :=
  .rowToObject Sample.measurementName
    [.column "sensor" (.integer .int64), .column "reading" .decimal, .column "ratio" (.float .double),
      .column "label" .varchar]

def wideRow : Row :=
  ⟨wideColumns.fields, [Sample.long 7, Sample.amount 100000 2, Sample.ratio .double 1 4, Sample.text "probe"]⟩

/-- The measurement that is read from the row. -/
def wideMeasurement : Record :=
  ⟨[("sensor", Sample.number .int16 7), ("reading", Sample.number .int32 1000), ("ratio", Sample.ratio .single 1 4),
    ("taken_on", .null .date), ("label", Sample.text "probe")]⟩

theorem modes_agree_measurement :
    let schema : Schema Record := fun _ => .entity (Sample.withDefault Sample.measurement)
    ∃ r s, compile schema ((Rules.ofSettings {}).inMode .automatic) wideColumns = .ok r ∧
      compile schema ((Rules.ofSettings {}).inMode .plain) wideColumns = .ok s ∧
      r.call wideRow = .ok wideMeasurement ∧ s.call wideRow = .ok wideMeasurement := by
  intro schema
  have hmap : (compile schema ((Rules.ofSettings {}).inMode .automatic) wideColumns).map
      (fun r => (r.plan.operations.map fun op => (op.source, op.type), r.call wideRow)) =
        .ok ([(0, .integer .int16), (1, .integer .int32), (2, .float .single), (3, .varchar)], .ok wideMeasurement) := by
    decide
  obtain ⟨r, hr, hshown⟩ := Result.map_eq_ok_iff.1 hmap
  obtain ⟨hops, hcall⟩ := Prod.mk.inj hshown
  have hnumbers : ∀ op ∈ r.plan.operations, ∀ f, wideColumns.fields[op.source]? = some f →
      Coercion.ModesAgree f.type op.type := by
    intro op hop f hf
    have hplanned : (op.source, op.type) ∈
        [(0, ValueType.integer .int16), (1, .integer .int32), (2, .float .single), (3, .varchar)] :=
      hops ▸ List.mem_map_of_mem hop
    simp only [List.mem_cons, Prod.mk.injEq, List.not_mem_nil, or_false] at hplanned
    rcases hplanned with ⟨hsource, htype⟩ | ⟨hsource, htype⟩ | ⟨hsource, htype⟩ | ⟨hsource, htype⟩ <;>
      rw [hsource] at hf <;> obtain rfl := Option.some.inj hf <;> rw [htype]
    · exact .inr (.inr ⟨rfl, rfl⟩)
    · exact .inr (.inr ⟨rfl, rfl⟩)
    · exact .inr (.inr ⟨rfl, rfl⟩)
    · exact .inl rfl
  have hrow : wideColumns.Holds wideRow.values :=
    .cons (.inr rfl) (.cons (.inr rfl) (.cons (.inr rfl) (.cons (.inr rfl) .nil)))
  obtain ⟨s, hs, hsame⟩ := (modes_agree schema (.ofSettings {})).2.1 wideColumns r hr hnumbers
  exact ⟨r, s, hr, hs, hcall, hsame wideRow wideMeasurement hrow hcall⟩

end RowRoutine

end RowBinding
