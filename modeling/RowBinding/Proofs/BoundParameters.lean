import RowBinding.Proofs.CacheTransparency
import RowBinding.Proofs.StoreOrder
import RowBinding.Session
/-!
# Bound parameters

An object is bound to a command by one parameter for each member, in the order of the store fields.  **Binding appends
all of them or none** (`Session.bind_allOrNothing`): where the shape, a handler or a coercion fails, the command is left
as it was.
-/
namespace RowBinding

variable {α β : Type}

/-! ## What a member is sent as -/

/-- A value on its way out: what the handler sets, after the coercion. -/
def FieldRule.send (rule : FieldRule) (v : Value) : Result Value :=
  match rule.handler with
  | some h => h.set v >>= rule.coercion.apply
  | none => rule.coercion.apply v

namespace Rules

/-- What the rules say of a member that is sent to some store fields. -/
def outward (rules : Rules α) (target : TypeName) (fields : List Field) (m : MemberDef α) : FieldRule :=
  rules.resolveOutbound [⟨target, m.name⟩] m.type ((Field.named? fields m.fieldName).map (·.type))

/-- The parameter of a member: under its store name, with the value that its rule sends and the storage type of the
rule. -/
def parameterOf (rules : Rules α) (target : TypeName) (fields : List Field) (object : α) (m : MemberDef α) :
    Result Parameter :=
  (Result.inField target m.fieldName ((rules.outward target fields m).send (m.get object))).map fun v =>
    ⟨m.fieldName, v, (rules.outward target fields m).storage⟩

/-- The operation of the member at a position. -/
def outwardOperation (rules : Rules α) (target : TypeName) (fields : List Field) (m : MemberDef α) (i : Nat) :
    Operation where
  source := i
  name := m.fieldName
  type := (rules.outward target fields m).type
  coercion := (rules.outward target fields m).coercion
  handler := (rules.outward target fields m).handler
  onNull := none
  destination := .parameter (rules.outward target fields m).storage

/-- Compiles a routine for the parameters of an object and runs it. -/
def parametersFor (schema : Schema α) (rules : Rules α) (target : TypeName) (object : α) (fields : List Field) :
    Result (List Parameter) := do
  (← ParameterRoutine.compile schema rules (.objectToParameters target target fields)).call object

end Rules

/-! ## The plan -/

namespace Plan

variable {rules : Rules α} {e : EntityDef α} {target : TypeName} {fields : List Field}

theorem outboundOperation?_eq {source : TypeDef α} {b : ParameterBinding} {m : MemberDef α}
    (hm : e.members[b.member]? = some m)
    (hb : b = m.parameterBinding b.member (source.through? (.objectToParameters target target fields)) fields) :
    outboundOperation? rules (.objectToParameters target target fields) e source b =
      some (rules.outwardOperation target fields m b.member) := by
  have hthrough : source.through? (.objectToParameters target target fields) = none := by
    cases source with
    | scalar s => rfl
    | entity n => exact if_pos rfl
  rw [hthrough] at hb
  have hmembers : outboundMembers (.objectToParameters target target fields) source m b = [⟨target, m.name⟩] := by
    rw [hb]
    rfl
  have hfield : b.field.bind (fields[·]?) = Field.named? fields m.fieldName := by
    rw [hb]
    exact Field.positionOf?_bind
  have hrule : rules.resolveOutbound (outboundMembers (.objectToParameters target target fields) source m b) m.type
      ((b.field.bind (fields[·]?)).map (·.type)) = rules.outward target fields m := by
    rw [hmembers, hfield]
    rfl
  show (e.members[b.member]?).bind _ = _
  rw [hm, Option.bind_some]
  dsimp only [Fingerprint.objectToParameters] at hrule ⊢
  rw [hrule]
  rfl

/-- **The plan of an entity's parameters has one operation for each member, in store order.** -/
theorem ofParameters_outward {source : TypeDef α} {plan : Plan}
    (h : ofParameters rules (.entity e) source (.objectToParameters target target fields) = .ok plan) :
    Field.Distinct fields ∧ e.members ≠ [] ∧ ∃ order, e.StoreOrder fields order ∧
      List.Forall₂ (fun i op => ∃ m, e.members[i]? = some m ∧ op = rules.outwardOperation target fields m i) order
        plan.operations := by
  obtain ⟨bs, hbs, -, hops⟩ := ofParameters_entity h
  obtain ⟨hdistinct, hmembers, -⟩ := analyzeParameters_eq_ok_iff.1 hbs
  refine ⟨hdistinct, hmembers, _, analyzeParameters_storeOrder hbs, ?_⟩
  rw [List.forall₂_map_left_iff]
  refine ((List.forall₂_and_left bs _).2 ⟨analyzeParameters_binding hbs, hops⟩).imp ?_
  rintro b op ⟨⟨m, hm, hbinding⟩, hop⟩
  rw [outboundOperation?_eq hm hbinding] at hop
  exact ⟨m, hm, (Option.some.inj hop).symm⟩

end Plan

/-! ## The routine -/

namespace ParameterRoutine

variable {schema : Schema α} {rules : Rules α} {target : TypeName} {fields : List Field}

/-- A routine for parameters compiles exactly for an entity with members and for labels that differ. -/
theorem exists_compile_iff : (∃ r, compile schema rules (.objectToParameters target target fields) = .ok r) ↔
    ∃ e, schema target = .entity e ∧ e.members ≠ [] ∧ Field.Distinct fields := by
  constructor
  · rintro ⟨r, hr⟩
    obtain ⟨plan, hplan, -⟩ := Result.bind_eq_ok_iff.1 hr
    dsimp only [Fingerprint.objectToParameters, Option.getD_some] at hplan
    obtain ⟨e, hd⟩ := Plan.entity_of_ofParameters hplan
    rw [hd] at hplan
    obtain ⟨hdistinct, hmembers, -⟩ := Plan.ofParameters_outward hplan
    exact ⟨e, hd, hmembers, hdistinct⟩
  · rintro ⟨e, hd, hmembers, hdistinct⟩
    have hbs : (TypeDef.entity e).analyzeParameters (.entity e) (.objectToParameters target target fields) = .ok _ :=
      Plan.analyzeParameters_eq_ok_iff.2 ⟨hdistinct, hmembers, rfl⟩
    rw [compile]
    dsimp only [Fingerprint.objectToParameters, Option.getD_some] at hbs ⊢
    rw [hd, Plan.ofParameters, hbs]
    exact ⟨_, rfl⟩

/-- What the routine of an entity holds. -/
theorem compile_outward {r : ParameterRoutine α} {e : EntityDef α}
    (hr : compile schema rules (.objectToParameters target target fields) = .ok r) (hd : schema target = .entity e) :
    r.fingerprint.target = target ∧ r.getters = e.members.map (·.get) ∧ ∃ order, e.StoreOrder fields order ∧
      List.Forall₂ (fun i op => ∃ m, e.members[i]? = some m ∧ op = rules.outwardOperation target fields m i) order
        r.plan.operations := by
  obtain ⟨plan, hplan, hr⟩ := Result.bind_eq_ok_iff.1 hr
  dsimp only [Fingerprint.objectToParameters, Option.getD_some] at hplan hr
  rw [hd] at hplan hr
  obtain rfl := Except.ok.inj hr
  obtain ⟨-, -, order, horder, hops⟩ := Plan.ofParameters_outward hplan
  obtain ⟨bs, -, hplan⟩ := Result.bind_eq_ok_iff.1 hplan
  obtain rfl := Except.ok.inj hplan
  exact ⟨rfl, rfl, order, horder, hops⟩

theorem adapt_outward (m : MemberDef α) (i : Nat) (v : Value) :
    adapt (rules.outwardOperation target fields m i) v = (rules.outward target fields m).send v := by
  unfold adapt FieldRule.send Rules.outwardOperation
  dsimp only
  cases (rules.outward target fields m).handler <;> rfl

theorem parameter_outward (object : α) (m : MemberDef α) (i : Nat) :
    parameter target object (rules.outwardOperation target fields m i) m.get = rules.parameterOf target fields object m := by
  unfold parameter Rules.parameterOf
  rw [adapt_outward]
  dsimp only [Rules.outwardOperation]
  cases Result.inField target m.fieldName ((rules.outward target fields m).send (m.get object)) <;> rfl

/-- **The parameters are those of the members, one after the other**: the first failure is the failure of all. -/
theorem parameters_outward {e : EntityDef α} (object : α) {order : List Nat} {ops : List Operation}
    (h : List.Forall₂ (fun i op => ∃ m, e.members[i]? = some m ∧ op = rules.outwardOperation target fields m i) order
      ops) : ∃ ms, List.Forall₂ (fun i m => e.members[i]? = some m) order ms ∧
      parameters target (e.members.map (·.get)) object ops = ms.mapM (rules.parameterOf target fields object) := by
  induction h with
  | nil => exact ⟨[], .nil, rfl⟩
  | @cons i op _ _ hop _ ih =>
    obtain ⟨m, hm, rfl⟩ := hop
    obtain ⟨ms, hms, heq⟩ := ih
    refine ⟨m :: ms, .cons hm hms, ?_⟩
    have hget : (e.members.map (·.get))[(rules.outwardOperation target fields m i).source]? = some m.get := by
      show (e.members.map (·.get))[i]? = some m.get
      rw [List.getElem?_map, hm, Option.map_some]
    rw [parameters, hget, List.mapM_cons]
    dsimp only
    rw [heq, parameter_outward]

end ParameterRoutine

/-! ## The parameters of an object -/

namespace Rules

variable {schema : Schema α} {rules : Rules α} {target : TypeName} {object : α} {fields : List Field}

theorem parameterOf_eq_ok_iff {m : MemberDef α} {q : Parameter} : rules.parameterOf target fields object m = .ok q ↔
    ∃ v, (rules.outward target fields m).send (m.get object) = .ok v ∧
      q = ⟨m.fieldName, v, (rules.outward target fields m).storage⟩ := by
  unfold parameterOf
  cases (rules.outward target fields m).send (m.get object) with
  | error e => exact ⟨fun h => (by cases h), fun ⟨_, h, _⟩ => (by cases h)⟩
  | ok v =>
    constructor
    · intro h
      exact ⟨v, rfl, (Except.ok.inj h).symm⟩
    · rintro ⟨w, hw, rfl⟩
      obtain rfl := Except.ok.inj hw
      rfl

/-- The parameters are those of the members in store order. -/
theorem parametersFor_entity (rules : Rules α) (object : α) {e : EntityDef α} (hd : schema target = .entity e)
    (hmembers : e.members ≠ []) (hdistinct : Field.Distinct fields) : ∃ order ms, e.StoreOrder fields order ∧
      List.Forall₂ (fun i m => e.members[i]? = some m) order ms ∧
      rules.parametersFor schema target object fields = ms.mapM (rules.parameterOf target fields object) := by
  obtain ⟨r, hr⟩ : ∃ r, ParameterRoutine.compile schema rules (.objectToParameters target target fields) = .ok r :=
    ParameterRoutine.exists_compile_iff.2 ⟨e, hd, hmembers, hdistinct⟩
  obtain ⟨htarget, hgetters, order, horder, hops⟩ := ParameterRoutine.compile_outward hr hd
  obtain ⟨ms, hms, hparameters⟩ := ParameterRoutine.parameters_outward object hops
  refine ⟨order, ms, horder, hms, ?_⟩
  rw [parametersFor, hr, ← hparameters, ← htarget, ← hgetters]
  rfl

theorem parametersFor_eq_ok {added : List Parameter} (h : rules.parametersFor schema target object fields = .ok added) :
    ∃ e, schema target = .entity e ∧ e.members ≠ [] ∧ Field.Distinct fields := by
  obtain ⟨r, hr, -⟩ := Result.bind_eq_ok_iff.1 h
  exact ParameterRoutine.exists_compile_iff.1 ⟨r, hr⟩

/-- **One parameter for each member, in store order.** -/
theorem parametersFor_sent {added : List Parameter} (h : rules.parametersFor schema target object fields = .ok added) :
    ∃ e order, schema target = .entity e ∧ e.StoreOrder fields order ∧
      List.Forall₂ (fun i q => ∃ m v, e.members[i]? = some m ∧
        (rules.outward target fields m).send (m.get object) = .ok v ∧
        q = ⟨m.fieldName, v, (rules.outward target fields m).storage⟩) order added := by
  obtain ⟨e, hd, hmembers, hdistinct⟩ := parametersFor_eq_ok h
  obtain ⟨order, ms, horder, hms, heq⟩ := parametersFor_entity rules object hd hmembers hdistinct
  rw [heq] at h
  refine ⟨e, order, hd, horder, forall₂_comp (fun i m q hm hq => ?_) hms (Result.mapM_eq_ok_iff.1 h)⟩
  obtain ⟨v, hv, rfl⟩ := parameterOf_eq_ok_iff.1 hq
  exact ⟨m, v, hm, hv, rfl⟩

/-- **Binding succeeds when the shape fits and every member can be sent.** -/
theorem exists_parametersFor_iff (rules : Rules α) :
    (∃ added, rules.parametersFor schema target object fields = .ok added) ↔
      ∃ e, schema target = .entity e ∧ e.members ≠ [] ∧ Field.Distinct fields ∧
        ∀ m ∈ e.members, ∃ v, (rules.outward target fields m).send (m.get object) = .ok v := by
  constructor
  · rintro ⟨added, h⟩
    obtain ⟨e, hd, hmembers, hdistinct⟩ := parametersFor_eq_ok h
    obtain ⟨order, ms, horder, hms, heq⟩ := parametersFor_entity rules object hd hmembers hdistinct
    rw [heq] at h
    refine ⟨e, hd, hmembers, hdistinct, fun m hm => ?_⟩
    obtain ⟨q, hq⟩ := Result.exists_mapM_iff.1 ⟨added, h⟩ m ((horder.perm_members hms).mem_iff.2 hm)
    obtain ⟨v, hv, -⟩ := parameterOf_eq_ok_iff.1 hq
    exact ⟨v, hv⟩
  · rintro ⟨e, hd, hmembers, hdistinct, hsent⟩
    obtain ⟨order, ms, horder, hms, heq⟩ := parametersFor_entity rules object hd hmembers hdistinct
    rw [heq, Result.exists_mapM_iff]
    intro m hm
    obtain ⟨v, hv⟩ := hsent m ((horder.perm_members hms).mem_iff.1 hm)
    exact ⟨_, parameterOf_eq_ok_iff.2 ⟨v, hv, rfl⟩⟩

end Rules

/-! ## Binding -/

theorem Rules.bindToFields_eq (schema : Schema α) (rules : Rules α) (command : Command) (target : TypeName) (object : α)
    (fields : List Field) : rules.bindToFields schema command target object fields =
      (rules.parametersFor schema target object fields).map command.append := by
  unfold bindToFields parametersFor
  cases ParameterRoutine.compile schema rules (.objectToParameters target target fields) <;> rfl

namespace Session

/-- What binding does to the command of a session. -/
theorem perform_bind (target : TypeName) (object : α) (fields : List Field) (j : Journaled (Session α)) :
    ((bind target object fields).perform j).1 = (((Mapper.bindToFields j.state.command target object fields).perform
        ⟨j.state.mapper, j.log⟩).1.map (·.parameters)) ∧
      ((bind target object fields).perform j).2.state.command = match ((Mapper.bindToFields j.state.command target object
        fields).perform ⟨j.state.mapper, j.log⟩).1 with
        | .ok command => command
        | .error _ => j.state.command := by
  unfold bind onCommand onMapper
  simp only [Job.perform_bind, Job.perform_get, Job.perform_set, Job.perform_onPart]
  generalize (Mapper.bindToFields j.state.command target object fields).perform ⟨j.state.mapper, j.log⟩ = ran
  obtain ⟨result, i⟩ := ran
  cases result <;> exact ⟨rfl, rfl⟩

/-- **Binding is all or nothing.**  For every mapper that requests have led to, every command and every object: where
binding fails the command is what it was; where it succeeds the command has one more parameter for each member, in store
order, with the value that the member's handler and coercion make of it.  It succeeds exactly for an entity with members,
for labels that differ, and when every member can be sent. -/
theorem bind_allOrNothing (schema : Schema α) (settings : Settings) (log : List LogRecord) (requests : List (Request α))
    (command : Command) (routines : Registry String (Published (Routine α))) (tables : Registry String BulkTable)
    (target : TypeName) (object : α) (fields : List Field) :
    let used := (Mapper.serveAll requests ⟨Mapper.ofSettings schema settings, log⟩).2
    let rule := used.state.rules.outward target fields
    let bound := (bind target object fields).perform ⟨⟨used.state, command, routines, tables⟩, used.log⟩
    (match bound.1 with
      | .error _ => bound.2.state.command = command
      | .ok parameters => ∃ e order added, schema target = .entity e ∧ e.StoreOrder fields order ∧
        (fields = [] → order = List.range e.members.length) ∧
        List.Forall₂ (fun i q => ∃ m v, e.members[i]? = some m ∧ (rule m).send (m.get object) = .ok v ∧
          q = ⟨m.fieldName, v, (rule m).storage⟩) order added ∧
        parameters = command.parameters ++ added ∧ bound.2.state.command = command.append added) ∧
    ((∃ parameters, bound.1 = .ok parameters) ↔ ∃ e, schema target = .entity e ∧ e.members ≠ [] ∧ Field.Distinct fields ∧
      ∀ m ∈ e.members, ∃ v, (rule m).send (m.get object) = .ok v) := by
  intro used rule bound
  have hunder : Mapper.Under schema used.state.rules used.state := Mapper.under_serveAll schema settings log requests
  obtain ⟨hresult, hcommand⟩ := perform_bind target object fields ⟨⟨used.state, command, routines, tables⟩, used.log⟩
  have hbound := (Mapper.perform_bindToFields command target object fields (j := ⟨used.state, used.log⟩) hunder).2
  rw [Rules.bindToFields_eq] at hbound
  rw [hbound] at hresult hcommand
  rw [← Rules.exists_parametersFor_iff used.state.rules]
  cases hadded : used.state.rules.parametersFor schema target object fields with
  | error e =>
    rw [hadded] at hresult hcommand
    rw [show bound.1 = .error e from hresult]
    refine ⟨hcommand, fun ⟨_, h⟩ => (by cases h), fun ⟨_, h⟩ => (by cases h)⟩
  | ok added =>
    rw [hadded] at hresult hcommand
    rw [show bound.1 = .ok (command.parameters ++ added) from hresult]
    obtain ⟨e, order, hd, horder, hsent⟩ := Rules.parametersFor_sent hadded
    refine ⟨⟨e, order, added, hd, horder, ?_, hsent, rfl, hcommand⟩, fun _ => ⟨added, rfl⟩, fun _ => ⟨_, rfl⟩⟩
    rintro rfl
    exact horder.eq_range

end Session

end RowBinding
