import Mathlib.Data.List.Perm.Basic
import RowBinding.Proofs.FieldUpdates
import RowBinding.Proofs.PlanRuns
import RowBinding.Proofs.UnreachedBranches
import RowBinding.Sample.Checks
/-!
# What a row has to do with an object

A run reads the columns that its operations name, and no other column has a say in what it does.  What it builds is the
object of the constructor with the assigned members replaced, **each member by what its setter makes of the value of its
own operation, and in whatever order** (`RowRoutine.call_frame`); a member that nothing is assigned to keeps what the
constructor gave it.
-/
namespace RowBinding

variable {α β : Type}

/-! ## Columns that are not read -/

/-- The rows have the same values where the operations read. -/
def SameSources (ops : List Operation) (v w : List Value) : Prop := ∀ op ∈ ops, v[op.source]? = w[op.source]?

section SameSources

variable {ops : List Operation} {op : Operation}

theorem Operation.run_sameSources (hop : op ∈ ops) : RowReader.Carries (SameSources ops) (SameSources ops) op.run := by
  intro v w h
  rw [run_eq, run_eq, h op hop]
  cases op.deliver (w[op.source]?.getD .untyped) with
  | error e => exact .error e
  | ok u =>
    refine .ok u fun other hother => ?_
    by_cases hsame : other.source = op.source
    · rw [hsame, List.getElem?_set_self', List.getElem?_set_self', h op hop]
    · rw [List.getElem?_set_ne (Ne.symm hsame), List.getElem?_set_ne (Ne.symm hsame), h other hother]

namespace RowRoutine

theorem produce_sameSources (plan : Plan) (body : RowBody α) :
    RowReader.Carries (SameSources plan.operations) (SameSources plan.operations) (produce plan body) := by
  refine (RowReader.composes_carries.produce (a := plan) (b := plan) rfl ⟨rfl, fun _ _ _ => .error _⟩ ?_ body).2
  exact List.forall₂_same.2 fun op hop => ⟨rfl, fun use => ⟨rfl, (Operation.run_sameSources hop).reading _ _ use⟩⟩

/-- **A column that no operation reads has no say in a run.** -/
theorem call_sameSources (r : RowRoutine α) {row row' : Row} (hlength : row.values.length = row'.values.length)
    (h : SameSources r.plan.operations row.values row'.values) : r.call row = r.call row' := by
  have hend := produce_sameSources r.plan r.body row.values row'.values h
  rw [call_eq, call_eq, hlength]
  generalize produce r.plan r.body row.values = ran at hend ⊢
  generalize produce r.plan r.body row'.values = ran' at hend ⊢
  cases hend with
  | ok b _ => rfl
  | error e => rfl

end RowRoutine

end SameSources

/-! ## One assignment -/

section Assignments

variable {e : EntityDef α} {f : e.FieldUpdates} {op : Operation} {values rest : List Value} {target : TypeName} {a b : α}

/-- The operation makes an update of the field of its member: what the setter makes of the value that the operation
delivers for what stands at its source. -/
def EntityDef.FieldUpdates.Makes (f : e.FieldUpdates) (values : List Value) (op : Operation) (u : f.Update) : Prop :=
  op.destination = .member u.1 ∧ ∃ v, op.Yields values v ∧ f.convert u.1 v = .ok u.2

theorem EntityDef.FieldUpdates.Makes.congr {u : f.Update} (h : f.Makes values op u)
    (hrest : rest[op.source]? = values[op.source]?) : f.Makes rest op u := by
  obtain ⟨hdestination, v, hv, hu⟩ := h
  exact ⟨hdestination, v, hv.congr hrest, hu⟩

namespace RowRoutine

theorem atField_using_eq_ok {use : Value → Result β} {b : β} (hsource : op.source < values.length)
    (h : atField target op use values = .ok (b, rest)) :
    ∃ v, op.Yields values v ∧ use v = .ok b ∧ rest = values.set op.source .untyped := by
  obtain ⟨⟨v, between⟩, hrun, hv⟩ := Result.bind_eq_ok_iff.1 (Result.inField_eq_ok h)
  obtain ⟨c, hc, hdone⟩ := Result.bind_eq_ok_iff.1 hv
  obtain ⟨rfl, rfl⟩ := Prod.mk.inj (Except.ok.inj hdone)
  have hvalue := List.getElem?_eq_getElem hsource
  rw [Operation.run_of_getElem? hvalue] at hrun
  obtain ⟨v', hv', hrest⟩ := Result.map_eq_ok_iff.1 hrun
  obtain ⟨rfl, rfl⟩ := Prod.mk.inj hrest
  exact ⟨v', ⟨_, hvalue, hv'⟩, hc, rfl⟩

/-- An assignment that succeeds writes its update. -/
theorem assign_eq_ok (f : e.FieldUpdates) (hop : op.Assigns e) (hsource : op.source < values.length)
    (h : assign target (e.members.map (·.set)) a op values = .ok (b, rest)) :
    ∃ u, f.Makes values op u ∧ b = f.put a u ∧ rest = values.set op.source .untyped := by
  obtain ⟨i, m, put, hdestination, hm, hput⟩ := hop
  rw [assign, setter?_of_member hdestination hm hput] at h
  obtain ⟨v, hv, hb, hrest⟩ := atField_using_eq_ok hsource h
  rw [f.set hm hput] at hb
  obtain ⟨x, hx, rfl⟩ := Result.map_eq_ok_iff.1 hb
  exact ⟨⟨i, x⟩, ⟨hdestination, v, hv, hx⟩, rfl, hrest⟩

theorem assign_of_makes (hop : op.Assigns e) {u : f.Update} (h : f.Makes values op u) :
    assign target (e.members.map (·.set)) a op values = .ok (f.put a u, values.set op.source .untyped) := by
  obtain ⟨i, m, put, hdestination, hm, hput⟩ := hop
  obtain ⟨hu, v, hv, hx⟩ := h
  obtain rfl := Slot.member.inj (hdestination.symm.trans hu)
  rw [assign, setter?_of_member hdestination hm hput]
  refine atField_of_yields hv ?_
  rw [f.set hm hput, hx]
  rfl

/-! ## All of them -/

/-- **Assignments that succeed write their updates**, each for what stood at its own source at first. -/
theorem foldlM_assign_eq_ok (f : e.FieldUpdates) : ∀ {ops : List Operation} {values rest : List Value} {a b : α},
    (∀ op ∈ ops, op.Assigns e ∧ op.source < values.length) → (ops.map (·.source)).Nodup →
      (ops.foldlM (assign target (e.members.map (·.set))) a : RowReader α) values = .ok (b, rest) →
        ∃ us, List.Forall₂ (f.Makes values) ops us ∧ b = us.foldl f.put a
  | [], values, rest, a, b, _, _, h => ⟨[], .nil, (congrArg Prod.fst (Except.ok.inj h)).symm⟩
  | op :: ops, values, rest, a, b, hops, hnodup, h => by
    rw [List.map_cons, List.nodup_cons] at hnodup
    rw [List.foldlM_cons] at h
    obtain ⟨next, between, hnext, h⟩ := RowReader.bind_eq_ok h
    obtain ⟨hop, hsource⟩ := hops op List.mem_cons_self
    obtain ⟨u, hu, rfl, rfl⟩ := assign_eq_ok f hop hsource hnext
    have hrest : ∀ other ∈ ops, other.Assigns e ∧ other.source < (values.set op.source .untyped).length := by
      intro other hother
      rw [List.length_set]
      exact hops other (List.mem_cons_of_mem op hother)
    obtain ⟨us, hus, rfl⟩ := foldlM_assign_eq_ok f hrest hnodup.2 h
    have hkept := Operation.getElem?_set_source hnodup.1 values
    refine ⟨u :: us, .cons hu ?_, rfl⟩
    exact ((List.forall₂_and_left ops us).2 ⟨hkept, hus⟩).imp fun other w h => h.2.congr h.1.symm

theorem foldlM_assign_of_makes : ∀ {ops : List Operation} {us : List f.Update} {values : List Value} {a : α},
    List.Forall₂ (f.Makes values) ops us → (∀ op ∈ ops, op.Assigns e) → (ops.map (·.source)).Nodup →
      ∃ rest, (ops.foldlM (assign target (e.members.map (·.set))) a : RowReader α) values = .ok (us.foldl f.put a, rest)
  | [], _, values, _, .nil, _, _ => ⟨values, rfl⟩
  | op :: ops, u :: us, values, a, .cons hu hus, hops, hnodup => by
    rw [List.map_cons, List.nodup_cons] at hnodup
    have hkept := Operation.getElem?_set_source hnodup.1 values
    have hrest : List.Forall₂ (f.Makes (values.set op.source .untyped)) ops us :=
      ((List.forall₂_and_left ops us).2 ⟨hkept, hus⟩).imp fun other w h => h.2.congr h.1
    obtain ⟨rest, hdone⟩ := foldlM_assign_of_makes (a := f.put a u) hrest
      (fun other hother => hops other (List.mem_cons_of_mem op hother)) hnodup.2
    refine ⟨rest, ?_⟩
    rw [List.foldlM_cons]
    exact (RowReader.bind_of_ok (assign_of_makes (hops op List.mem_cons_self) hu)).trans hdone

end RowRoutine

end Assignments

/-! ## Whole runs -/

theorem RowRoutine.gather_keeps {target : TypeName} : ∀ {ops : List Operation} {values vs rest : List Value},
    gather target ops values = .ok (vs, rest) →
      rest.length = values.length ∧ ∀ j, j ∉ ops.map (·.source) → rest[j]? = values[j]?
  | [], values, vs, rest, h => by
    obtain rfl : values = rest := congrArg Prod.snd (Except.ok.inj h)
    exact ⟨rfl, fun _ _ => rfl⟩
  | op :: ops, values, vs, rest, h => by
    unfold gather at h
    rw [List.mapM_cons] at h
    obtain ⟨v, between, hv, h⟩ := RowReader.bind_eq_ok h
    obtain ⟨us, last, hus, h⟩ := RowReader.bind_eq_ok h
    obtain rfl : last = rest := congrArg Prod.snd (Except.ok.inj h)
    obtain ⟨-, rfl⟩ := atField_eq_ok hv
    obtain ⟨hlength, hkeep⟩ := gather_keeps hus
    refine ⟨by rw [hlength, List.length_set], fun j hj => ?_⟩
    rw [List.map_cons, List.mem_cons, not_or] at hj
    rw [hkeep j hj.2, List.getElem?_set_ne (Ne.symm hj.1)]

namespace Plan

/-- The plan with other assignments. -/
def withAssignments (plan : Plan) (ops : List Operation) : Plan := { plan with operations := plan.arguments ++ ops }

variable {plan : Plan} {ops : List Operation}

theorem isMember_eq_not_isArgument {slot : Slot} (h : slot.isMember = true) : slot.isArgument = false := by
  cases slot <;> first | rfl | cases h

theorem arguments_withAssignments (h : ∀ op ∈ ops, op.destination.isMember = true) :
    (plan.withAssignments ops).arguments = plan.arguments := by
  have hnone : ops.filter (·.destination.isArgument) = [] :=
    List.filter_eq_nil_iff.2 fun op hop => by rw [isMember_eq_not_isArgument (h op hop)]; exact Bool.false_ne_true
  rw [arguments, withAssignments, List.filter_append, hnone, List.append_nil, arguments, List.filter_filter]
  simp

theorem assignments_withAssignments (h : ∀ op ∈ ops, op.destination.isMember = true) :
    (plan.withAssignments ops).assignments = ops := by
  have hnone : plan.arguments.filter (·.destination.isMember) = [] := by
    refine List.filter_eq_nil_iff.2 fun op hop hmember => ?_
    have hargument := (List.mem_filter.1 hop).2
    rw [isMember_eq_not_isArgument hmember] at hargument
    cases hargument
  rw [assignments, withAssignments, List.filter_append, hnone, List.nil_append, List.filter_eq_self.2 h]

end Plan

namespace RowRoutine

/-- The routine with other assignments. -/
def withAssignments (r : RowRoutine α) (ops : List Operation) : RowRoutine α := { r with plan := r.plan.withAssignments ops }

/-- An object is what a constructor built out of a row, with these updates: one for each assignment, of its member and for
its own value. -/
structure Fills {e : EntityDef α} (r : RowRoutine α) (f : e.FieldUpdates) (row : Row) (c : ConstructorDef α) (built : α)
    (us : List f.Update) (object : α) : Prop where
  selected : r.plan.selected.bind (e.constructors[·]?) = some c
  /-- The constructor is given what the operations of its parameters deliver. -/
  construction : ∃ arguments, c.build ⟨arguments⟩ = .ok built ∧ arguments.length = c.params.length ∧
    ∀ (i : Nat) (op : Operation), r.plan.arguments[i]? = some op →
      ∃ v, arguments[i]? = some v ∧ op.deliver (op.finds (r.plan.arguments.take i) row.values) = .ok v
  updates : List.Forall₂ (f.Makes row.values) r.plan.assignments us
  result : object = us.foldl f.put built
  assigned : ∀ u ∈ us, f.read u.1 object = u.2
  untouched : ∀ i, i ∉ us.map Sigma.fst → f.read i object = f.read i built
  /-- The assignments may be made in any order. -/
  unordered : ∀ ops : List Operation, ops.Perm r.plan.assignments → (r.withAssignments ops).call row = .ok object

variable {e : EntityDef α} {c : ConstructorDef α} {r : RowRoutine α} {row : Row} {object : α} {plan : Plan}

/-- A run gathers the arguments, builds an object of them and makes the assignments. -/
theorem produce_entity_iff {name : String} {build : Args → Result α} {setters : List (Option (α → Value → Result α))}
    {values last : List Value} : produce plan (.entity name build setters) values = .ok (object, last) ↔
      ∃ arguments rest built, gather plan.fingerprint.target plan.arguments values = .ok (arguments, rest) ∧
        build ⟨arguments⟩ = .ok built ∧
        (plan.assignments.foldlM (assign plan.fingerprint.target setters) built : RowReader α) rest = .ok (object, last) := by
  have hlift : ∀ {arguments rest built}, build ⟨arguments⟩ = .ok built →
      (liftM (Result.inField plan.fingerprint.target (name ++ "(..)") (build ⟨arguments⟩)) : RowReader α) rest =
        .ok (built, rest) := by
    intro arguments rest built hbuilt
    rw [hbuilt]
    rfl
  unfold produce
  constructor
  · intro h
    obtain ⟨arguments, rest, hgather, h⟩ := RowReader.bind_eq_ok h
    obtain ⟨built, rest', hbuilt, h⟩ := RowReader.bind_eq_ok h
    obtain ⟨built', hbuilt', hrest⟩ := Result.bind_eq_ok_iff.1 hbuilt
    obtain ⟨rfl, rfl⟩ := Prod.mk.inj (Except.ok.inj hrest)
    exact ⟨arguments, rest, built', hgather, Result.inField_eq_ok hbuilt', h⟩
  · rintro ⟨arguments, rest, built, hgather, hbuilt, hdone⟩
    exact (RowReader.bind_of_ok hgather).trans ((RowReader.bind_of_ok (hlift hbuilt)).trans hdone)

/-- Without a hook a call gives what the run gives. -/
theorem call_eq_ok_iff (hhook : r.hook = none) : r.call row = .ok object ↔
    row.values.length = r.fingerprint.fields.length ∧ ∃ last, produce r.plan r.body row.values = .ok (object, last) := by
  have hfinish : ∀ a, r.finish a = .ok a := fun a => by rw [finish, hhook]
  rw [call_eq]
  split
  · rename_i hlength
    constructor
    · intro h
      obtain ⟨⟨a, last⟩, hproduce, ha⟩ := Result.bind_eq_ok_iff.1 h
      obtain rfl := Except.ok.inj ((hfinish a).symm.trans ha)
      exact ⟨hlength, last, hproduce⟩
    · rintro ⟨-, last, hproduce⟩
      rw [hproduce]
      exact hfinish object
  · rename_i hlength
    constructor
    · intro h
      cases h
    · intro h
      exact absurd h.1 hlength

theorem members_of_makes {f : e.FieldUpdates} (h : plan.Builds e c) {values : List Value} {us : List f.Update}
    (hus : List.Forall₂ (f.Makes values) plan.assignments us) :
    (us.map Sigma.fst).Nodup ∧ ∀ u ∈ us, u.1 < e.members.length := by
  obtain ⟨ms, hms, hnodup, hset⟩ := h.assignments
  have hdestinations : ms.map Slot.member = (us.map Sigma.fst).map Slot.member := by
    rw [← hms, List.map_map]
    exact map_eq_of_forall₂ hus fun op u hu => hu.1
  obtain rfl : ms = us.map Sigma.fst := List.map_injective_iff.2 (fun _ _ => Slot.member.inj) hdestinations
  refine ⟨hnodup, fun u hu => ?_⟩
  obtain ⟨⟨m, hm, -⟩, -⟩ := hset u.1 (List.mem_map_of_mem hu)
  exact (List.getElem?_eq_some_iff.1 hm).1

/-- **A successful call fills the object that the constructor built.** -/
theorem fills_of_call (f : e.FieldUpdates) (hformed : r.plan.WellFormed (.entity e))
    (hbody : bodyOf (.entity e) r.plan = .ok r.body) (hhook : r.hook = none) (h : r.call row = .ok object) :
    ∃ c built us, r.Fills f row c built us object := by
  obtain ⟨c, hbuilds⟩ := hformed.body
  obtain ⟨hlength, last, hproduce⟩ := (call_eq_ok_iff hhook).1 h
  have hentity : r.body = .entity c.name c.build (e.members.map (·.set)) :=
    Except.ok.inj (hbody.symm.trans (bodyOf_of_builds hbuilds))
  rw [hentity] at hproduce
  obtain ⟨arguments, rest, built, hgather, hbuilt, hdone⟩ := produce_entity_iff.1 hproduce
  obtain ⟨hrest, hkeep⟩ := gather_keeps hgather
  -- fields are taken in their order, so no two assignments read one column
  have hsources : (r.plan.assignments.map (·.source)).Nodup := hbuilds.increasing.imp Nat.ne_of_lt
  have hassigns := assigns_of_builds hbuilds
  have hreads : ∀ op ∈ r.plan.assignments, op.Assigns e ∧ op.source < rest.length := by
    intro op hop
    rw [hrest, hlength]
    exact ⟨hassigns op hop, hformed.sources op (List.mem_filter.1 hop).1⟩
  obtain ⟨us, hus, rfl⟩ := foldlM_assign_eq_ok f hreads hsources hdone
  obtain ⟨hmembers, hlt⟩ := members_of_makes hbuilds hus
  have hwhole : f.Whole built := by
    obtain ⟨i, -, hc⟩ := Option.bind_eq_some_iff.1 hbuilds.selected
    exact f.build c (List.mem_of_getElem? hc) hbuilt
  obtain ⟨hassigned, huntouched⟩ := f.read_foldl_put hmembers hlt hwhole
  refine ⟨c, built, us, hbuilds.selected, ?_, ?_, rfl, hassigned, huntouched, fun ops hops => ?_⟩
  · exact ⟨arguments, hbuilt, (gather_of_builds hbuilds hgather).1, (gather_eq_ok hgather).2⟩
  · -- no argument reads what an assignment reads, so the assignments find the row as it was
    have hkept : ∀ op ∈ r.plan.assignments, row.values[op.source]? = rest[op.source]? := fun op hop =>
      (hkeep op.source fun hargument => hbuilds.apart _ hargument _ (List.mem_map_of_mem hop) rfl).symm
    exact ((List.forall₂_and_left _ us).2 ⟨hkept, hus⟩).imp fun op u h => h.2.congr h.1
  · have hmember : ∀ op ∈ ops, op.destination.isMember = true :=
      fun op hop => (List.mem_filter.1 (hops.mem_iff.1 hop)).2
    obtain ⟨vs, hvs, hperm⟩ := List.perm_comp_forall₂ hops hus
    obtain ⟨last', hdone'⟩ : ∃ last', (ops.foldlM (assign r.plan.fingerprint.target (e.members.map (·.set))) built :
        RowReader α) rest = .ok (vs.foldl f.put built, last') :=
      foldlM_assign_of_makes hvs (fun op hop => hassigns op (hops.mem_iff.1 hop)) ((hops.map _).nodup_iff.2 hsources)
    rw [← f.foldl_put_perm hperm.symm hmembers] at hdone'
    refine (call_eq_ok_iff (r := r.withAssignments ops) hhook).2 ⟨hlength, last', ?_⟩
    show produce (r.plan.withAssignments ops) r.body row.values = _
    rw [hentity, produce_entity_iff, Plan.arguments_withAssignments hmember, Plan.assignments_withAssignments hmember]
    exact ⟨arguments, rest, built, hgather, hbuilt, hdone'⟩

variable {schema : Schema α} {rules : Rules α} {p : Fingerprint}

/-- **What a row has to do with the object that is read from it.**  Rows of the compiled length that have the same values
where the operations read are read alike, whatever their other columns hold.  Where the setters update fields and no hook
sees the object, what is read is the object that the selected constructor built of its arguments, with the assigned
members replaced by what their setters make of the values of their own operations, and in whatever order. -/
theorem call_frame (hr : compile schema rules p = .ok r) :
    (∀ row row' : Row, row.values.length = p.fields.length → row'.values.length = p.fields.length →
      SameSources r.plan.operations row.values row'.values → r.call row = r.call row') ∧
    ∀ (e : EntityDef α) (f : e.FieldUpdates), schema p.target = .entity e → rules.objectHook? p.target = none →
      ∀ row object, r.call row = .ok object → ∃ c built us, r.Fills f row c built us object := by
  refine ⟨fun row row' hrow hrow' h => call_sameSources r (hrow.trans hrow'.symm) h, ?_⟩
  intro e f hd hhook row object h
  obtain ⟨hplan, hbody⟩ := compile_eq_ok hr
  rw [hd] at hplan hbody
  exact fills_of_call f (Plan.wellFormed_ofRow hplan) hbody ((compile_hook hr).trans hhook) h

end RowRoutine

/-! ## An account -/

namespace Sample

theorem account_holds {id owner balance : Value} (hid : int64.Stored id) (howner : string.Stored owner)
    (hbalance : decimal.Stored balance) (made : String) :
    account.Holds ⟨[("id", id), ("owner", owner), ("balance", balance), ("note", (NativeType.option string).start),
      ("built_with", .varchar made)]⟩ := by
  have hnote : (NativeType.option string).Stored (NativeType.option string).start := by decide
  have hmade : string.Stored (.varchar made) := ⟨made, rfl⟩
  intro f hf
  simp only [account, List.mem_cons, List.not_mem_nil, or_false] at hf
  rcases hf with rfl | rfl | rfl | rfl | rfl
  · exact hid
  · exact howner
  · exact hbalance
  · exact hnote
  · exact hmade

theorem account_proper : account.Proper none makeAccount where
  names := by decide
  params := by
    intro c hc
    simp only [account, List.mem_cons, List.not_mem_nil, or_false] at hc
    rcases hc with rfl | rfl | rfl
    · exact ⟨List.nodup_nil, nofun⟩
    · refine ⟨by decide, fun i hi => ?_⟩
      obtain rfl := List.mem_singleton.1 hi
      exact ⟨_, rfl, rfl⟩
    · refine ⟨by decide, fun i hi => ?_⟩
      simp only [List.mem_cons, List.not_mem_nil, or_false] at hi
      rcases hi with rfl | rfl | rfl <;> exact ⟨_, rfl, rfl⟩
  start := nofun
  functions := by
    have hid : int64.Stored int64.start := by decide
    have howner : string.Stored string.start := by decide
    have hbalance : decimal.Stored decimal.start := by decide
    intro c hc values hvalues
    simp only [account, List.mem_cons, List.not_mem_nil, or_false] at hc
    rcases hc with rfl | rfl | rfl
    · replace hvalues : List.Forall₂ _ [] values := hvalues
      cases hvalues
      exact ⟨account_holds hid howner hbalance "empty", .nil⟩
    · replace hvalues : List.Forall₂ _ [StructField.plain "id" int64] values := hvalues
      cases hvalues with
      | cons hv hvalues =>
        cases hvalues
        exact ⟨account_holds hv howner hbalance "with_id", .cons rfl .nil⟩
    · replace hvalues : List.Forall₂ _
        [StructField.plain "id" int64, StructField.plain "owner" string, StructField.plain "balance" decimal] values := hvalues
      cases hvalues with
      | cons hv hvalues =>
        cases hvalues with
        | cons hw hvalues =>
          cases hvalues with
          | cons hx hvalues =>
            cases hvalues
            exact ⟨account_holds hv hw hx "new", .cons rfl (.cons rfl (.cons rfl .nil))⟩

/-- Columns for the smaller constructor, for two members, and one that nothing is read from. -/
def accountColumns : Fingerprint :=
  .rowToObject accountName
    [.column "note" .varchar, .column "owner" .varchar, .column "id" (.integer .int64), .column "remark" .varchar]

def accountRow (remark : Value) : Row :=
  ⟨accountColumns.fields, [.varchar "vip", .varchar "Ada", long 10, remark]⟩

/-- The account that is read from such a row. -/
def vipAccount : Record :=
  ⟨[("id", long 10), ("owner", .varchar "Ada"), ("balance", decimal.start), ("note", .varchar "vip"),
    ("built_with", .varchar "with_id")]⟩

theorem call_frame_account :
    ∃ r, RowRoutine.compile (fun _ => .entity RowRoutine.accountEntity) (.ofSettings {}) accountColumns = .ok r ∧
      r.plan.operations.map (fun op => (op.source, op.destination)) = [(2, .argument 0), (0, .member 3), (1, .member 1)] ∧
      (∀ remark, r.call (accountRow remark) = .ok vipAccount) ∧
      (r.withAssignments r.plan.assignments.reverse).call (accountRow .untyped) = .ok vipAccount := by
  have hmap : (RowRoutine.compile (fun _ => .entity RowRoutine.accountEntity) (.ofSettings {}) accountColumns).map
      (fun r => (r.plan.operations.map fun op => (op.source, op.destination), r.call (accountRow .untyped))) =
        .ok ([(2, .argument 0), (0, .member 3), (1, .member 1)], .ok vipAccount) := by decide
  obtain ⟨r, hr, hshown⟩ := Result.map_eq_ok_iff.1 hmap
  obtain ⟨hops, hcall⟩ := Prod.mk.inj hshown
  obtain ⟨hread, hfills⟩ := RowRoutine.call_frame hr
  obtain ⟨c, built, us, hfilled⟩ := hfills RowRoutine.accountEntity account_proper.fieldUpdates rfl rfl _ _ hcall
  refine ⟨r, hr, hops, fun remark => ?_, hfilled.unordered _ (List.reverse_perm _)⟩
  rw [hread (accountRow remark) (accountRow .untyped) rfl rfl, hcall]
  intro op hop
  have hplanned : (op.source, op.destination) ∈ [(2, Slot.argument 0), (0, .member 3), (1, .member 1)] :=
    hops ▸ List.mem_map_of_mem hop
  simp only [List.mem_cons, Prod.mk.injEq, List.not_mem_nil, or_false] at hplanned
  rcases hplanned with ⟨hsource, -⟩ | ⟨hsource, -⟩ | ⟨hsource, -⟩ <;> rw [hsource] <;> rfl

end Sample

end RowBinding
