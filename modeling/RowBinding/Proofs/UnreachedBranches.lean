import RowBinding.Proofs.AgreeingReaders
import RowBinding.Proofs.SharedRoutine
import RowBinding.Proofs.WellFormedPlans
import RowBinding.Sample.Structs
/-!
# Branches that no run takes

A run that looks up a field, a setter or the first operation says what happens when there is none.  Here these answers
are a parameter of the run.  **For the routine of a plan the answers make no difference** (`compile_wellFormed`): on a
row of the compiled length no lookup comes back empty, and the constructor gets one value for each of its parameters.
-/
namespace RowBinding

variable {α : Type}

/-- What a run does where its plan names something that is not there. -/
structure Gaps (α : Type) where
  /-- The value for a source that the row does not have. -/
  source : Result Value
  /-- What becomes of an object when the member has no setter. -/
  setter : α → Result α
  /-- The object of a plan without operations. -/
  empty : Result α

/-- Nothing is read, the member is left out, and the plan is refused. -/
def Gaps.ofPlan (plan : Plan) : Gaps α := ⟨.ok .untyped, .ok, .error (.emptyPlan plan.fingerprint.text)⟩

namespace Operation

def runWith (source : Result Value) (op : Operation) : RowReader Value := fun values => do
  let v ←
    match values[op.source]? with
    | some v => .ok v
    | none => source
  (op.deliver v).map fun w => (w, values.set op.source .untyped)

variable {op : Operation} {source : Result Value}

theorem runWith_of_lt {values : List Value} (h : op.source < values.length) : op.runWith source values = op.run values := by
  have hv := List.getElem?_eq_getElem h
  rw [run_of_getElem? hv, runWith, hv]
  rfl

theorem runWith_untyped (op : Operation) : op.runWith (.ok .untyped) = op.run := by
  funext values
  rw [run_eq, runWith]
  cases values[op.source]? <;> rfl

theorem length_of_run {values rest : List Value} {w : Value} (h : op.run values = .ok (w, rest)) :
    rest.length = values.length := by
  rw [run_eq] at h
  obtain ⟨w', -, hrest⟩ := Result.map_eq_ok_iff.1 h
  obtain ⟨-, rfl⟩ : w' = w ∧ values.set op.source .untyped = rest := by simpa using hrest
  exact List.length_set

/-- On rows long enough the answer to a missing source does not matter. -/
theorem runWith_agreeOn {n : Nat} (h : op.source < n) :
    RowReader.AgreeOn (fun values => values.length = n) (op.runWith source) op.run := by
  rintro values rfl
  exact ⟨runWith_of_lt h, fun w rest hrun => length_of_run hrun⟩

/-- The operation goes to a member that can be set. -/
def Assigns (op : Operation) (e : EntityDef α) : Prop :=
  ∃ i m put, op.destination = .member i ∧ e.members[i]? = some m ∧ m.set = some put

end Operation

namespace RowRoutine

def assignWith (gaps : Gaps α) (target : TypeName) (setters : List (Option (α → Value → Result α))) (object : α)
    (op : Operation) : RowReader α :=
  match setter? setters op with
  | some set => RowReader.reading target op.name (op.runWith gaps.source) (set object)
  | none => liftM (gaps.setter object)

def produceWith (gaps : Gaps α) (plan : Plan) (body : RowBody α) : RowReader α :=
  let target := plan.fingerprint.target
  match body with
  | .scalar ofValue =>
    match plan.operations with
    | op :: _ => RowReader.reading target op.name (op.runWith gaps.source) ofValue
    | [] => liftM gaps.empty
  | .entity name build setters => do
    let arguments ← plan.arguments.mapM fun op => RowReader.reading target op.name (op.runWith gaps.source) pure
    let object ← Result.inField target (name ++ "(..)") (build ⟨arguments⟩)
    plan.assignments.foldlM (assignWith gaps target setters) object

/-- Reads a row, with answers of its own to the lookups that find nothing. -/
def callWith (gaps : Gaps α) (r : RowRoutine α) (row : Row) : Result α :=
  if row.values.length = r.fingerprint.fields.length then
    produceWith gaps r.plan r.body row.values >>= fun built => r.finish built.1
  else .error (r.fingerprint.shapeMismatch (.rowSize row.values.length r.fingerprint.fields.length))

/-- Every assignment goes to a member that can be set. -/
def AllSet (plan : Plan) : RowBody α → Prop
  | .scalar _ => True
  | .entity _ _ setters => ∀ op ∈ plan.assignments, ∃ set, setter? setters op = some set

variable {I : List Value → Prop} {gaps : Gaps α} {plan : Plan}

theorem assignWith_agreeOn {op : Operation} (hrun : RowReader.AgreeOn I (op.runWith gaps.source) op.run)
    (target : TypeName) {setters : List (Option (α → Value → Result α))}
    (hsetter : (∃ set, setter? setters op = some set) ∨ gaps.setter = .ok) (object : α) :
    RowReader.AgreeOn I (assignWith gaps target setters object op) (assign target setters object op) := by
  unfold assignWith assign
  cases hset : setter? setters op with
  | some set => exact hrun.reading target op.name (set object)
  | none =>
    have hskip : gaps.setter = .ok := hsetter.resolve_left fun ⟨set, h⟩ => by simp [hset] at h
    rw [hskip]
    exact RowReader.agreeOn_pure object

/-- Where the runs of the operations agree, so do those of the routine.  A missing setter has to be out of the question
or to leave the member out; a plan with no operations has to be out of the question or to fail as it does. -/
theorem produceWith_agreeOn (hrun : ∀ op ∈ plan.operations, RowReader.AgreeOn I (op.runWith gaps.source) op.run)
    {body : RowBody α} (hsetter : AllSet plan body ∨ gaps.setter = .ok)
    (hempty : plan.operations ≠ [] ∨ gaps.empty = .error (.emptyPlan plan.fingerprint.text)) :
    RowReader.AgreeOn I (produceWith gaps plan body) (produce plan body) := by
  cases body with
  | scalar ofValue =>
    unfold produceWith produce
    dsimp only
    cases hops : plan.operations with
    | nil =>
      rw [hempty.resolve_left fun h => h hops]
      exact fun values _ => ⟨rfl, fun b rest h => (by cases h)⟩
    | cons op ops => exact (hrun op (hops ▸ List.mem_cons_self)).reading _ op.name ofValue
  | entity name build setters =>
    have hrelated : ∀ kind : Slot → Bool, List.Forall₂ (fun a b => a = b ∧ b ∈ plan.operations ∧ kind b.destination = true)
        (plan.operations.filter (kind ·.destination)) (plan.operations.filter (kind ·.destination)) := by
      intro kind
      exact List.forall₂_same.2 fun op hop => ⟨rfl, List.mem_filter.1 hop⟩
    refine RowReader.AgreeOn.bind ?_ fun arguments => (RowReader.agreeOn_lift _).bind fun object => ?_
    · refine RowReader.composes_agreeOn.mapM (hrelated Slot.isArgument) ?_
      rintro op _ ⟨rfl, hop, -⟩
      exact (hrun op hop).reading _ op.name pure
    · refine RowReader.composes_agreeOn.foldlM (hrelated Slot.isMember) ?_ object
      rintro built op _ ⟨rfl, hop, hmember⟩
      exact assignWith_agreeOn (hrun op hop) _ (hsetter.imp_left fun h => h op (List.mem_filter.2 ⟨hop, hmember⟩)) built

/-- With the answers of the plan itself it is the same run. -/
theorem callWith_ofPlan (r : RowRoutine α) (row : Row) : r.callWith (.ofPlan r.plan) row = r.call row := by
  have hrun : ∀ op ∈ r.plan.operations,
      RowReader.AgreeOn (fun _ => True) (op.runWith (Gaps.ofPlan (α := α) r.plan).source) op.run := by
    intro op _
    have hsame : op.runWith (Gaps.ofPlan (α := α) r.plan).source = op.run := op.runWith_untyped
    rw [hsame]
    exact fun values _ => ⟨rfl, fun _ _ _ => trivial⟩
  have hagree : RowReader.AgreeOn (fun _ => True) (produceWith (.ofPlan r.plan) r.plan r.body) (produce r.plan r.body) :=
    produceWith_agreeOn hrun (.inr rfl) (.inr rfl)
  have hproduce := (hagree row.values trivial).1
  rw [callWith, call_eq, hproduce]

end RowRoutine

/-! ## What the constructor gets -/

/-- What an operation finds after some others: the value at its source, unless one of them has taken it. -/
def Operation.finds (op : Operation) (before : List Operation) (values : List Value) : Value :=
  if op.source ∈ before.map (·.source) then .untyped else values[op.source]?.getD .untyped

theorem Operation.finds_cons (op first : Operation) (before : List Operation) (values : List Value) :
    op.finds (first :: before) values = op.finds before (values.set first.source .untyped) := by
  unfold finds
  simp only [List.map_cons, List.mem_cons]
  by_cases htaken : op.source ∈ before.map (·.source)
  · rw [if_pos (.inr htaken), if_pos htaken]
  · by_cases hfirst : op.source = first.source
    · rw [if_pos (.inl hfirst), if_neg htaken, hfirst, List.getElem?_set_self']
      cases values[first.source]? <;> rfl
    · rw [if_neg (not_or.2 ⟨hfirst, htaken⟩), if_neg htaken, List.getElem?_set_ne (Ne.symm hfirst)]

namespace RowRoutine

theorem atField_eq_ok {target : TypeName} {op : Operation} {values rest : List Value} {v : Value}
    (h : atField target op pure values = .ok (v, rest)) :
    op.deliver (op.finds [] values) = .ok v ∧ rest = values.set op.source .untyped := by
  obtain ⟨⟨w, between⟩, hrun, hv⟩ := Result.bind_eq_ok_iff.1 (Result.inField_eq_ok h)
  obtain ⟨rfl, rfl⟩ : w = v ∧ between = rest := by simpa using Except.ok.inj hv
  rw [Operation.run_eq] at hrun
  obtain ⟨w', hw, hrest⟩ := Result.map_eq_ok_iff.1 hrun
  obtain ⟨rfl, rfl⟩ : w' = w ∧ values.set op.source .untyped = between := by simpa using hrest
  exact ⟨hw, rfl⟩

/-- **The arguments are what the operations deliver**, each for what the ones before it have left. -/
theorem gather_eq_ok {target : TypeName} : ∀ {ops : List Operation} {values vs rest : List Value},
    gather target ops values = .ok (vs, rest) → vs.length = ops.length ∧ ∀ (i : Nat) (op : Operation), ops[i]? = some op →
      ∃ v, vs[i]? = some v ∧ op.deliver (op.finds (ops.take i) values) = .ok v
  | [], values, vs, rest, h => by
    obtain rfl : [] = vs := congrArg Prod.fst (Except.ok.inj h)
    exact ⟨rfl, fun i op hop => (by simp at hop)⟩
  | first :: ops, values, vs, rest, h => by
    unfold gather at h
    rw [List.mapM_cons] at h
    obtain ⟨v, between, hv, h⟩ := RowReader.bind_eq_ok h
    obtain ⟨us, last, hus, h⟩ := RowReader.bind_eq_ok h
    obtain rfl : v :: us = vs := congrArg Prod.fst (Except.ok.inj h)
    obtain ⟨hdeliver, rfl⟩ := atField_eq_ok hv
    obtain ⟨hlen, hall⟩ := gather_eq_ok hus
    refine ⟨by rw [List.length_cons, List.length_cons, hlen], fun i op hop => ?_⟩
    cases i with
    | zero =>
      obtain rfl : first = op := by simpa using hop
      exact ⟨v, rfl, hdeliver⟩
    | succ i =>
      obtain ⟨u, hu, hdelivered⟩ := hall i op (by simpa using hop)
      rw [List.take_succ_cons, Operation.finds_cons]
      exact ⟨u, by simpa using hu, hdelivered⟩

/-! ## The routine of a plan -/

section Builds

variable {e : EntityDef α} {c : ConstructorDef α} {plan : Plan}

theorem bodyOf_of_builds (h : plan.Builds e c) :
    bodyOf (.entity e) plan = .ok (.entity c.name c.build (e.members.map (·.set))) := by
  unfold bodyOf
  dsimp only
  rw [h.selected]

theorem assigns_of_builds (h : plan.Builds e c) : ∀ op ∈ plan.assignments, op.Assigns e := by
  intro op hop
  obtain ⟨ms, hms, -, hset⟩ := h.assignments
  obtain ⟨i, hi, hdestination⟩ : ∃ i ∈ ms, Slot.member i = op.destination :=
    List.mem_map.1 (hms ▸ List.mem_map_of_mem hop)
  obtain ⟨⟨m, hm, hwritable⟩, -⟩ := hset i hi
  obtain ⟨put, hput⟩ := Option.isSome_iff_exists.1 hwritable
  exact ⟨i, m, put, hdestination.symm, hm, hput⟩

theorem allSet_of_builds (h : plan.Builds e c) : AllSet plan (.entity c.name c.build (e.members.map (·.set))) := by
  intro op hop
  obtain ⟨i, m, put, hdestination, hm, hput⟩ := assigns_of_builds h op hop
  exact ⟨put, setter?_of_member hdestination hm hput⟩

theorem destination_of_builds (h : plan.Builds e c) {i : Nat} {op : Operation} (hi : plan.arguments[i]? = some op) :
    op.destination = .argument i := by
  have hdestination := congrArg (·[i]?) h.arguments
  rw [List.getElem?_map, hi, Option.map_some, List.getElem?_map] at hdestination
  obtain ⟨j, hj, hargument⟩ := Option.map_eq_some_iff.1 hdestination.symm
  obtain ⟨_, rfl⟩ := List.getElem?_eq_some_iff.1 hj
  rw [← hargument, List.getElem_range]

theorem exists_argument_of_builds (h : plan.Builds e c) {i : Nat} (hi : i < c.params.length) :
    ∃ op, plan.arguments[i]? = some op ∧ op.destination = .argument i := by
  have hdestination : (plan.arguments.map (·.destination))[i]? = ((List.range c.params.length).map Slot.argument)[i]? := by
    rw [h.arguments]
  rw [List.getElem?_map, List.getElem?_map, List.getElem?_range hi, Option.map_some, Option.map_eq_some_iff] at hdestination
  exact hdestination

theorem gather_of_builds (h : plan.Builds e c) {target : TypeName} {values arguments rest : List Value}
    (hgather : gather target plan.arguments values = .ok (arguments, rest)) :
    arguments.length = c.params.length ∧ ∀ i, i < c.params.length → ∃ op v, plan.arguments[i]? = some op ∧
      op.destination = .argument i ∧ arguments[i]? = some v ∧
      op.deliver (op.finds (plan.arguments.take i) values) = .ok v := by
  obtain ⟨hlen, hdelivered⟩ := gather_eq_ok hgather
  have harity := congrArg List.length h.arguments
  rw [List.length_map, List.length_map, List.length_range] at harity
  refine ⟨hlen.trans harity, fun i hi => ?_⟩
  obtain ⟨op, hop, hdestination⟩ := exists_argument_of_builds h hi
  obtain ⟨v, hv, hdeliver⟩ := hdelivered i op hop
  exact ⟨op, v, hop, hdestination, hv, hdeliver⟩

end Builds

/-- A well-formed plan finds its constructor, and all its setters. -/
theorem bodyOf_of_wellFormed {d : TypeDef α} {plan : Plan} (h : plan.WellFormed d) :
    ∃ body, bodyOf d plan = .ok body ∧ AllSet plan body := by
  have hbody := h.body
  cases d with
  | scalar s => exact ⟨_, rfl, trivial⟩
  | entity e =>
    obtain ⟨c, hbuilds⟩ := hbody
    exact ⟨_, bodyOf_of_builds hbuilds, allSet_of_builds hbuilds⟩

theorem callWith_of_wellFormed {d : TypeDef α} {r : RowRoutine α} (h : r.plan.WellFormed d) (hset : AllSet r.plan r.body)
    (gaps : Gaps α) {row : Row} (hrow : row.values.length = r.fingerprint.fields.length) :
    r.callWith gaps row = r.call row := by
  have hrun : ∀ op ∈ r.plan.operations,
      RowReader.AgreeOn (fun values => values.length = r.fingerprint.fields.length) (op.runWith gaps.source) op.run :=
    fun op hop => Operation.runWith_agreeOn (h.sources op hop)
  have hproduce := (produceWith_agreeOn hrun (.inl hset) (.inl h.nonempty) row.values hrow).1
  rw [callWith, call_eq, hproduce]

/-- **Nothing that a run looks up is missing.**  The plan is well formed, so compiling finds the constructor; whatever the
answers to a missing source, a missing setter and an empty plan are, no row of the compiled length is read otherwise for
them; and the constructor gets one value for each of its parameters, the one that the operation of the parameter
delivers. -/
theorem compile_wellFormed (schema : Schema α) (rules : Rules α) (p : Fingerprint) (plan : Plan)
    (h : Plan.ofRow rules (schema p.target) p = .ok plan) :
    plan.fingerprint = p ∧ plan.WellFormed (schema p.target) ∧
    ∃ r, compile schema rules p = .ok r ∧ r.plan = plan ∧
      (∀ (gaps : Gaps α) (row : Row), row.values.length = p.fields.length → r.callWith gaps row = r.call row) ∧
      ∀ e c, schema p.target = .entity e → plan.selected.bind (e.constructors[·]?) = some c →
        r.body = .entity c.name c.build (e.members.map (·.set)) ∧
        ∀ values arguments rest, gather p.target plan.arguments values = .ok (arguments, rest) →
          arguments.length = c.params.length ∧ ∀ i, i < c.params.length → ∃ op v, plan.arguments[i]? = some op ∧
            op.destination = .argument i ∧ arguments[i]? = some v ∧
            op.deliver (op.finds (plan.arguments.take i) values) = .ok v := by
  have hformed := Plan.wellFormed_ofRow h
  obtain ⟨body, hbody, hset⟩ := bodyOf_of_wellFormed hformed
  have hcompile : compile schema rules p = .ok ⟨plan, body, rules.objectHook? p.target⟩ :=
    Result.bind_eq_ok_iff.2 ⟨plan, h, Result.bind_eq_ok_iff.2 ⟨body, hbody, rfl⟩⟩
  have hfingerprint := compile_fingerprint hcompile
  refine ⟨hfingerprint, hformed, _, hcompile, rfl, fun gaps row hrow => ?_, fun e c hd hc => ?_⟩
  · exact callWith_of_wellFormed hformed hset gaps (hfingerprint ▸ hrow)
  · have hshape := hformed.body
    rw [hd] at hshape hbody
    obtain ⟨c', hbuilds⟩ := hshape
    obtain rfl : c = c' := Option.some.inj (hc.symm.trans hbuilds.selected)
    refine ⟨?_, fun values arguments rest hgather => gather_of_builds hbuilds hgather⟩
    exact Except.ok.inj (hbody.symm.trans (bodyOf_of_builds hbuilds))

/-- An account with an identifier, an owner, a balance and a note: three arguments and one assignment. -/
def accountEntity : EntityDef Record := Sample.account.definition.entity none Sample.makeAccount

def accountShape : Fingerprint :=
  .rowToObject Sample.accountName
    [.column "note" .varchar, .column "id" (.integer .int64), .column "owner" .varchar, .column "balance" .decimal]

theorem compile_wellFormed_account :
    ∃ plan, Plan.ofRow (.ofSettings {}) (.entity accountEntity) accountShape = .ok plan ∧
      plan.operations.map (fun op => (op.source, op.destination)) =
        [(1, .argument 0), (2, .argument 1), (3, .argument 2), (0, .member 3)] ∧
      plan.WellFormed (.entity accountEntity) ∧
      ∃ r, compile (fun _ => .entity accountEntity) (.ofSettings {}) accountShape = .ok r ∧ ∀ gaps,
        r.callWith gaps ⟨accountShape.fields, List.replicate 4 .untyped⟩ =
          r.call ⟨accountShape.fields, List.replicate 4 .untyped⟩ := by
  have hmap : (Plan.ofRow (.ofSettings {}) (.entity accountEntity) accountShape).map
      (fun plan => plan.operations.map fun op => (op.source, op.destination)) =
        .ok [(1, .argument 0), (2, .argument 1), (3, .argument 2), (0, .member 3)] := by decide
  obtain ⟨plan, hplan, hops⟩ := Result.map_eq_ok_iff.1 hmap
  obtain ⟨-, hformed, r, hr, -, hcall, -⟩ :=
    compile_wellFormed (fun _ => .entity accountEntity) (.ofSettings {}) accountShape plan hplan
  exact ⟨plan, hplan, hops, hformed, r, hr, fun gaps => hcall gaps _ rfl⟩

end RowRoutine

end RowBinding
