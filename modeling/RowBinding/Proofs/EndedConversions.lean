import RowBinding.Proofs.FailureKinds
import RowBinding.Proofs.ReachedOperations
import RowBinding.Proofs.UniversalTimes
/-!
# Conversions that end the computation

A cast gives a value or a failure, and so does a conversion, but for one.  **A timestamp with an offset whose universal
time leaves the calendar ends the computation when it is converted to a timestamp or a date**
(`Value.conversions_complete`), and a routine whose own parts do not end it does so exactly where a run comes to such a
value.
-/
namespace RowBinding

variable {α β γ : Type}

/-! ## Values -/

namespace Datum

variable {d : Datum} {t : ValueType}

theorem cast_ne_abort (d : Datum) (t : ValueType) : d.cast t ≠ .error .abort := by
  unfold cast
  split
  · nofun
  · split <;> nofun

theorem orFail_ne_abort (x : Except ValueFault β) : orFail x ≠ .error .abort := by
  cases x <;> nofun

theorem matchVariant_ne_abort (e f : EnumDef) (n : Discriminant) : matchVariant e n f ≠ .error .abort := by
  unfold matchVariant
  split <;> nofun

theorem convertNumber_ne_abort (d : Datum) (t : ValueType) : d.convertNumber t ≠ .error .abort := by
  unfold convertNumber
  split
  · nofun
  · split <;> nofun

theorem universal_eq_abort_iff {z : OffsetTimestamp} : universal z = .error .abort ↔ ¬ z.InCalendar := by
  rw [← OffsetTimestamp.exists_utc?_iff, universal]
  cases z.utc? <;> simp

theorem convertTo_eq_abort (h : d.convertTo t = .error .abort) :
    ∃ z, d = offsetTimestamp z ∧ ¬ z.InCalendar ∧ (t = .timestamp ∨ t = .date) := by
  unfold convertTo at h
  split at h
  case h_1 => exact absurd h (orFail_ne_abort _)
  case h_2 => exact absurd h (matchVariant_ne_abort _ _ _)
  case h_4 => split at h <;> cases h
  case h_10 z => exact ⟨z, rfl, universal_eq_abort_iff.1 (Result.map_eq_error_iff.1 h), .inl rfl⟩
  case h_11 z => exact ⟨z, rfl, universal_eq_abort_iff.1 (Result.map_eq_error_iff.1 h), .inr rfl⟩
  case h_12 => exact absurd h (convertNumber_ne_abort _ _)
  all_goals cases h

/-- **The computation ends with a timestamp out of the calendar** on its way to a timestamp or a date without offset. -/
theorem convert_eq_abort_iff : d.convert t = .error .abort ↔
    ∃ z, d = offsetTimestamp z ∧ ¬ z.InCalendar ∧ (t = .timestamp ∨ t = .date) := by
  constructor
  · intro h
    unfold convert at h
    split at h
    · cases h
    · exact convertTo_eq_abort h
  · rintro ⟨z, rfl, hz, rfl | rfl⟩
    · exact Result.map_eq_error_iff.2 (universal_eq_abort_iff.2 hz)
    · exact Result.map_eq_error_iff.2 (universal_eq_abort_iff.2 hz)

end Datum

namespace Value

variable {v : Value} {t : ValueType}

theorem cast_ne_abort (v : Value) (t : ValueType) : v.cast t ≠ .error .abort := by
  cases v with
  | datum d => exact fun h => d.cast_ne_abort t (Result.map_eq_error_iff.1 h)
  | _ => nofun

theorem convert_eq_abort_iff : v.convert t = .error .abort ↔
    ∃ z, v = datum (.offsetTimestamp z) ∧ ¬ z.InCalendar ∧ (t = .timestamp ∨ t = .date) := by
  cases v with
  | datum d =>
    have hconvert : (datum d).convert t = (d.convert t).map datum := rfl
    rw [hconvert, Result.map_eq_error_iff, Datum.convert_eq_abort_iff]
    simp only [datum.injEq]
  | _ =>
    constructor
    · intro h
      cases h
    · rintro ⟨z, hz, -⟩
      cases hz

end Value

/-! ## Operations -/

namespace Operation

variable {op : Operation} {values : List Value} {v : Value}

/-- The operation finds a timestamp out of the calendar and converts it to a timestamp or a date without offset. -/
def LeavesCalendar (op : Operation) (values : List Value) : Prop :=
  ∃ z, values[op.source]? = some (.datum (.offsetTimestamp z)) ∧ ¬ z.InCalendar ∧
    (op.coercion = .convert .timestamp ∨ op.coercion = .convert .date)

/-- The value is what the operation delivers for something. -/
def Delivers (op : Operation) (v : Value) : Prop := ∃ w, op.deliver w = .ok v

theorem apply_eq_abort_iff {c : Coercion} : c.apply v = .error .abort ↔
    ∃ z, v = .datum (.offsetTimestamp z) ∧ ¬ z.InCalendar ∧ (c = .convert .timestamp ∨ c = .convert .date) := by
  cases c with
  | identity => simp [Coercion.apply]
  | cast t => simp [Coercion.apply, Value.cast_ne_abort]
  | convert t => simp [Coercion.apply, Value.convert_eq_abort_iff]
  | parseEnum e => simp [Coercion.apply, Value.convert_eq_abort_iff]

theorem adapt_eq_abort_iff (hhandler : ∀ h, op.handler = some h → ∀ v, h.get v ≠ .error .abort) :
    op.adapt v = .error .abort ↔ op.coercion.apply v = .error .abort := by
  unfold adapt
  rw [Result.bind_eq_error_iff]
  constructor
  · rintro (h | ⟨w, -, h⟩)
    · exact h
    · cases hop : op.handler with
      | none =>
        rw [hop] at h
        cases h
      | some handler =>
        rw [hop] at h
        exact absurd h (hhandler handler hop w)
  · exact .inl

/-- Where no handler ends the computation, an operation ends it by its coercion. -/
theorem deliver_eq_abort_iff (hhandler : ∀ h, op.handler = some h → ∀ v, h.get v ≠ .error .abort) :
    op.deliver v = .error .abort ↔ op.coercion.apply v = .error .abort := by
  rw [← adapt_eq_abort_iff hhandler]
  unfold deliver
  split
  · rename_i hnull _
    constructor
    · intro h
      cases h
    · intro h
      obtain ⟨z, rfl, -⟩ := apply_eq_abort_iff.1 ((adapt_eq_abort_iff hhandler).1 h)
      cases hnull
  · exact Iff.rfl

theorem deliver_found_eq_abort_iff (hhandler : ∀ h, op.handler = some h → ∀ v, h.get v ≠ .error .abort) :
    op.deliver (values[op.source]?.getD .untyped) = .error .abort ↔ op.LeavesCalendar values := by
  rw [deliver_eq_abort_iff hhandler, apply_eq_abort_iff, LeavesCalendar]
  cases values[op.source]? with
  | none => simp
  | some v => simp

end Operation

/-! ## Runs -/

theorem Result.inField_eq_abort_iff {target field : String} {r : Result β} :
    Result.inField target field r = .error .abort ↔ r = .error .abort := by
  rw [inField_eq_error_iff]
  constructor
  · rintro ⟨reason, hr, he⟩
    rcases reason.inField_cases target field with hconversion | ⟨rfl, -⟩
    · rw [hconversion] at he
      cases he
    · exact hr
  · exact fun h => ⟨.abort, h, rfl⟩

theorem Result.inField_eq_ok_iff {target field : String} {r : Result β} {b : β} :
    Result.inField target field r = .ok b ↔ r = .ok b := by
  constructor
  · exact inField_eq_ok
  · rintro rfl
    rfl

namespace RowRoutine

variable {r : RowRoutine α} {target : TypeName} {op : Operation} {values rest : List Value}

/-- Nothing that the routine is given ends the computation: no handler, and for what operations deliver neither the
scalar nor the constructor nor a setter, nor the hook. -/
structure Orderly (r : RowRoutine α) : Prop where
  handlers : ∀ op ∈ r.plan.operations, ∀ h, op.handler = some h → ∀ v, h.get v ≠ .error .abort
  scalar : ∀ ofValue, r.body = .scalar ofValue →
    ∀ op ∈ r.plan.operations, ∀ v, op.Delivers v → ofValue v ≠ .error .abort
  build : ∀ name build setters, r.body = .entity name build setters →
    ∀ vs, List.Forall₂ Operation.Delivers r.plan.arguments vs → build ⟨vs⟩ ≠ .error .abort
  setters : ∀ name build setters, r.body = .entity name build setters → ∀ op ∈ r.plan.operations, ∀ set,
    setter? setters op = some set → ∀ object v, op.Delivers v → set object v ≠ .error .abort
  hook : ∀ hook, r.hook = some hook → ∀ object, hook object ≠ .error .abort

theorem atField_eq_abort_iff {use : Value → Result β} : atField target op use values = .error .abort ↔
    op.deliver (values[op.source]?.getD .untyped) = .error .abort ∨
      ∃ v, op.deliver (values[op.source]?.getD .untyped) = .ok v ∧ use v = .error .abort := by
  unfold atField
  rw [Result.inField_eq_abort_iff, Operation.run_eq, Result.bind_eq_error_iff, Result.map_eq_error_iff]
  refine or_congr Iff.rfl ?_
  constructor
  · rintro ⟨⟨v, rest⟩, hv, h⟩
    obtain ⟨w, hw, heq⟩ := Result.map_eq_ok_iff.1 hv
    obtain ⟨rfl, -⟩ := Prod.mk.inj heq
    rcases Result.bind_eq_error_iff.1 h with h | ⟨_, -, h⟩
    · exact ⟨w, hw, h⟩
    · cases h
  · rintro ⟨v, hv, h⟩
    exact ⟨_, Result.map_eq_ok_iff.2 ⟨v, hv, rfl⟩, Result.bind_eq_error_iff.2 (.inl h)⟩

/-- In an orderly routine a step that uses a value ends the computation by what the operation finds. -/
theorem Orderly.atField_eq_abort_iff (hr : r.Orderly) (hop : op ∈ r.plan.operations) {use : Value → Result β}
    (huse : ∀ v, op.Delivers v → use v ≠ .error .abort) :
    atField target op use values = .error .abort ↔ op.LeavesCalendar values := by
  rw [RowRoutine.atField_eq_abort_iff, Operation.deliver_found_eq_abort_iff (hr.handlers op hop)]
  constructor
  · rintro (h | ⟨v, hv, h⟩)
    · exact h
    · exact absurd h (huse v ⟨_, hv⟩)
  · exact .inl

theorem delivers_of_gather {ops : List Operation} {vs : List Value} (h : gather target ops values = .ok (vs, rest)) :
    List.Forall₂ Operation.Delivers ops vs := by
  obtain ⟨hlength, hdelivers⟩ := gather_eq_ok h
  refine List.forall₂_iff_get.2 ⟨hlength.symm, fun i hi hi' => ?_⟩
  obtain ⟨v, hv, hdeliver⟩ := hdelivers i ops[i] (List.getElem?_eq_getElem hi)
  obtain rfl : vs[i] = v := Option.some.inj ((List.getElem?_eq_getElem hi').symm.trans hv)
  exact ⟨_, hdeliver⟩

/-- The arguments end the computation where one of their operations leaves the calendar. -/
theorem Orderly.gather_eq_abort_iff (hr : r.Orderly) : gather target r.plan.arguments values = .error .abort ↔
    ∃ before op after vs rest, r.plan.arguments = before ++ op :: after ∧
      gather target before values = .ok (vs, rest) ∧ op.LeavesCalendar rest := by
  have hstep : ∀ {before op after}, r.plan.arguments = before ++ op :: after → ∀ rest,
      atField target op pure rest = .error .abort ↔ op.LeavesCalendar rest := by
    intro before op after hops rest
    have hop : op ∈ r.plan.operations := List.mem_of_mem_filter (hops ▸ List.mem_append_cons_self)
    exact hr.atField_eq_abort_iff hop fun v _ h => by cases h
  rw [gather, RowReader.mapM_eq_error_iff]
  constructor
  · rintro ⟨before, op, after, vs, rest, hops, hbefore, h⟩
    exact ⟨before, op, after, vs, rest, hops, hbefore, (hstep hops rest).1 h⟩
  · rintro ⟨before, op, after, vs, rest, hops, hbefore, h⟩
    exact ⟨before, op, after, vs, rest, hops, hbefore, (hstep hops rest).2 h⟩

theorem Orderly.assign_eq_abort_iff (hr : r.Orderly) {name : String} {build : Args → Result α}
    {setters : List (Option (α → Value → Result α))} (hbody : r.body = .entity name build setters)
    (hop : op ∈ r.plan.operations) {object : α} : assign target setters object op values = .error .abort ↔
      (∃ set, setter? setters op = some set) ∧ op.LeavesCalendar values := by
  unfold assign
  cases hset : setter? setters op with
  | none =>
    constructor
    · intro h
      cases h
    · rintro ⟨⟨set, hnone⟩, -⟩
      cases hnone
  | some set =>
    rw [hr.atField_eq_abort_iff hop (hr.setters name build setters hbody op hop set hset object)]
    simp

theorem produce_entity_eq_abort_iff {plan : Plan} {name : String} {build : Args → Result α}
    {setters : List (Option (α → Value → Result α))} :
    produce plan (.entity name build setters) values = .error .abort ↔
      gather plan.fingerprint.target plan.arguments values = .error .abort ∨
        ∃ vs between, gather plan.fingerprint.target plan.arguments values = .ok (vs, between) ∧
          (build ⟨vs⟩ = .error .abort ∨ ∃ built, build ⟨vs⟩ = .ok built ∧
            (plan.assignments.foldlM (assign plan.fingerprint.target setters) built : RowReader α) between =
              .error .abort) := by
  unfold produce
  dsimp only
  simp only [RowReader.bind_eq_error_iff, RowReader.lift_eq_error_iff, RowReader.lift_eq_ok_iff,
    Result.inField_eq_abort_iff, Result.inField_eq_ok_iff, and_assoc, exists_and_left, exists_eq_left]

theorem Orderly.produce_scalar_eq_abort_iff (hr : r.Orderly) {ofValue : Value → Result α}
    (hbody : r.body = .scalar ofValue) : produce r.plan (.scalar ofValue) values = .error .abort ↔
      ∃ op rest, r.ComesTo values op rest ∧ op.LeavesCalendar rest := by
  simp only [comesTo_scalar_iff hbody]
  unfold produce
  cases hops : r.plan.operations with
  | nil =>
    constructor
    · intro h
      cases h
    · rintro ⟨op, rest, ⟨⟨ops, hnil⟩, -⟩, -⟩
      cases hnil
  | cons op ops =>
    have hop : op ∈ r.plan.operations := hops ▸ List.mem_cons_self
    dsimp only
    rw [hr.atField_eq_abort_iff hop (hr.scalar ofValue hbody op hop)]
    constructor
    · exact fun h => ⟨op, values, ⟨⟨ops, rfl⟩, rfl⟩, h⟩
    · rintro ⟨_, _, ⟨⟨_, hfirst⟩, rfl⟩, h⟩
      obtain ⟨rfl, -⟩ := List.cons.inj hfirst
      exact h

/-- **An orderly run ends the computation exactly where it comes to an operation that leaves the calendar.** -/
theorem produce_eq_abort_iff (hr : r.Orderly) : produce r.plan r.body values = .error .abort ↔
    ∃ op rest, r.ComesTo values op rest ∧ op.LeavesCalendar rest := by
  cases hbody : r.body with
  | scalar ofValue => exact hr.produce_scalar_eq_abort_iff hbody
  | entity name build setters =>
    have hassigned : ∀ {before op after}, r.plan.assignments = before ++ op :: after → op ∈ r.plan.operations :=
      fun hops => List.mem_of_mem_filter (hops ▸ List.mem_append_cons_self)
    rw [produce_entity_eq_abort_iff, hr.gather_eq_abort_iff]
    constructor
    · rintro (⟨before, op, after, vs, rest, hops, hbefore, h⟩ | ⟨vs, between, hgather, hbuild | ⟨built, hbuilt, h⟩⟩)
      · exact ⟨op, rest, .argument hbody hops hbefore, h⟩
      · exact absurd hbuild (hr.build name build setters hbody vs (delivers_of_gather hgather))
      · obtain ⟨before, op, after, object, rest, hops, hbefore, h⟩ := RowReader.foldlM_eq_error_iff.1 h
        obtain ⟨⟨set, hset⟩, hleaves⟩ := (hr.assign_eq_abort_iff hbody (hassigned hops)).1 h
        exact ⟨op, rest, .member hbody hgather hbuilt hops hbefore hset, hleaves⟩
    · rintro ⟨op, rest, hcomes, hleaves⟩
      cases hcomes with
      | result hscalar _ =>
        rw [hbody] at hscalar
        cases hscalar
      | argument hentity hops hgather => exact .inl ⟨_, _, _, _, _, hops, hgather, hleaves⟩
      | @member _ _ _ _ _ _ _ _ _ _ object _ hentity hgather hbuild hops hassign hset =>
        obtain ⟨rfl, rfl, rfl⟩ := RowBody.entity.inj (hbody.symm.trans hentity)
        have hended : assign r.fingerprint.target setters object op rest = .error .abort :=
          (hr.assign_eq_abort_iff hbody (hassigned hops)).2 ⟨⟨_, hset⟩, hleaves⟩
        have hfold := RowReader.foldlM_eq_error_iff.2 ⟨_, _, _, _, _, hops, hassign, hended⟩
        exact .inr ⟨_, _, hgather, .inr ⟨_, hbuild, hfold⟩⟩

/-- What leaves the calendar has been in the row from the beginning. -/
theorem Thins.leavesCalendar (h : Thins values rest) (hleaves : op.LeavesCalendar rest) : op.LeavesCalendar values := by
  obtain ⟨z, hz, hout⟩ := hleaves
  rcases h _ _ hz with huntyped | hfound
  · cases huntyped
  · exact ⟨z, hfound, hout⟩

theorem Orderly.finish_ne_abort (hr : r.Orderly) (object : α) : r.finish object ≠ .error .abort := by
  unfold finish
  cases hhook : r.hook with
  | none => exact nofun
  | some hook => exact hr.hook hook hhook object

/-- **An orderly call ends the computation exactly where its run comes to an operation that leaves the calendar.** -/
theorem call_eq_abort_iff (hr : r.Orderly) {row : Row} : r.call row = .error .abort ↔
    row.values.length = r.fingerprint.fields.length ∧
      ∃ op rest, r.ComesTo row.values op rest ∧ op.LeavesCalendar rest := by
  rw [call_eq, ← produce_eq_abort_iff hr]
  split
  · rename_i hlength
    rw [Result.bind_eq_error_iff]
    constructor
    · rintro (h | ⟨built, -, h⟩)
      · exact ⟨hlength, h⟩
      · exact absurd h (hr.finish_ne_abort built.1)
    · exact fun h => .inl h.2
  · rename_i hlength
    constructor
    · intro h
      cases h
    · exact fun h => absurd h.1 hlength

end RowRoutine

namespace Value

/-- **Casts and conversions complete**, with a value or a failure, but for timestamps with an offset whose universal
time leaves the calendar: these end the computation on their way to a timestamp or a date without offset.  An orderly
routine ends it exactly on the rows of its size in which a run comes to such a value and converts it so; on any other
row it gives an object or a failure. -/
theorem conversions_complete :
    (∀ v t, cast v t ≠ .error .abort) ∧
    (∀ v t, convert v t = .error .abort ↔
      ∃ z, v = datum (.offsetTimestamp z) ∧ ¬ z.InCalendar ∧ (t = .timestamp ∨ t = .date)) ∧
    ∀ (schema : Schema α) (rules : Rules α) p r, RowRoutine.compile schema rules p = .ok r → r.Orderly → ∀ row : Row,
      (r.call row = .error .abort ↔ row.values.length = p.fields.length ∧
        ∃ op rest, r.ComesTo row.values op rest ∧ op.LeavesCalendar rest) ∧
      (r.call row = .error .abort → ∃ op ∈ r.plan.operations, op.LeavesCalendar row.values) := by
  refine ⟨cast_ne_abort, fun v t => convert_eq_abort_iff, fun schema rules p r hcompile hr row => ?_⟩
  have hp : r.fingerprint = p := RowRoutine.compile_fingerprint hcompile
  have hcall : r.call row = .error .abort ↔ _ := RowRoutine.call_eq_abort_iff hr
  rw [hp] at hcall
  refine ⟨hcall, fun h => ?_⟩
  obtain ⟨-, op, rest, hcomes, hleaves⟩ := hcall.1 h
  exact ⟨op, hcomes.mem, hcomes.thins.leavesCalendar hleaves⟩

/-- The last second of the calendar's last year, an hour behind universal time, which is in the year after. -/
def lastSecond : OffsetTimestamp :=
  (OffsetTimestamp.ofParts? ⟨(Date.ofParts? 9999 12 31).get rfl, (Time.ofParts? 23 59 59 0).get rfl⟩ (-3600)).get rfl

/-- Its universal time has no place in the calendar, and the conversion does not fail for that. -/
theorem convert_lastSecond : (datum (.offsetTimestamp lastSecond)).convert .timestamp = .error .abort ∧
    (datum (.offsetTimestamp lastSecond)).convert .date = .error .abort := by
  decide

/-! ## A scalar of universal time -/

/-- Timestamps without offset. -/
def momentSchema : Schema Value := fun _ => .ofNative id (.base .timestamp)

/-- A column of timestamps with offset. -/
def momentShape : Fingerprint := .rowToObject "Moment" [.column "at" .offsetTimestamp]

def momentRules : Rules Value := .ofSettings { mode := .automatic }

def moments : RowRoutine Value where
  plan := ⟨momentShape, .scalar, none,
    [⟨0, "at", .timestamp, .convert .timestamp, none, some ValueType.timestamp.zero, .result⟩]⟩
  body := .scalar fun v => (NativeType.store (.base .timestamp) v).map id
  hook := none

theorem store_timestamp_ne_abort {v : Value} (h : v.type? = some .timestamp) :
    NativeType.store (.base .timestamp) v ≠ .error .abort := by
  cases v with
  | datum d =>
    cases d with
    | timestamp t => nofun
    | _ => cases h
  | _ => nofun

theorem orderly_moments : moments.Orderly where
  handlers op hop h hhandler := by
    obtain rfl := List.mem_singleton.1 hop
    cases hhandler
  scalar ofValue hbody op hop v hv := by
    obtain rfl := List.mem_singleton.1 hop
    obtain rfl := RowBody.scalar.inj hbody
    have htype : v.type? = some .timestamp := by
      obtain ⟨w, hw⟩ := hv
      cases w with
      | datum d =>
        obtain ⟨u, hu, huv⟩ := Result.bind_eq_ok_iff.1 hw
        obtain rfl : u = v := Except.ok.inj huv
        exact convert_type? (v := datum d) hu
      | _ =>
        obtain rfl := Except.ok.inj hw
        rfl
    exact fun h => store_timestamp_ne_abort htype (Result.map_eq_error_iff.1 h)
  build _ _ _ hbody := by cases hbody
  setters _ _ _ hbody := by cases hbody
  hook _ hhook := by cases hhook

/-- The row with the last second ends the computation, and one with an early morning does not. -/
theorem conversions_complete_moments :
    RowRoutine.compile momentSchema momentRules momentShape = .ok moments ∧ moments.Orderly ∧
      moments.call ⟨momentShape.fields, [datum (.offsetTimestamp lastSecond)]⟩ = .error .abort ∧
      moments.call ⟨momentShape.fields, [datum (.offsetTimestamp earlyMorning)]⟩ ≠ .error .abort := by
  have hcompile : RowRoutine.compile momentSchema momentRules momentShape = .ok moments := rfl
  obtain ⟨-, -, hcalls⟩ := conversions_complete (α := Value)
  have hcall := hcalls momentSchema momentRules momentShape moments hcompile orderly_moments
  have hended := (hcall ⟨momentShape.fields, [datum (.offsetTimestamp lastSecond)]⟩).1.2
    ⟨rfl, _, _, .result rfl rfl, lastSecond, rfl, by decide, .inl rfl⟩
  refine ⟨hcompile, orderly_moments, hended, fun h => ?_⟩
  obtain ⟨op, hop, z, hz, hout, -⟩ := (hcall _).2 h
  obtain rfl := List.mem_singleton.1 hop
  obtain rfl : earlyMorning = z := by simpa using hz
  exact hout (by decide)

end Value

end RowBinding
