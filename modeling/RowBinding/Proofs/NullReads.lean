import RowBinding.Proofs.BlankValues
import RowBinding.Proofs.PlanRuns
import RowBinding.Proofs.Adaptation
import RowBinding.Proofs.UnreachedBranches
/-!
# Reading NULLs

Where no handler sees the value, a NULL is replaced before it is adapted, whatever its type and whatever the type of its
column.  **A row with a NULL is read as the row that holds the blank value of the destination in its place**
(`RowRoutine.call_null`): the NULL is no failure, and a constructor's parameter, an assigned member and a scalar alike
receive the blank value.
-/
namespace RowBinding

variable {α β : Type}

/-! ## Destinations -/

/-- The destination is declared with the type of its native values, and takes a NULL if they do. -/
def TypeDef.Receives (d : TypeDef α) (selected : Option Nat) (t : NativeType) : Slot → Prop
  | .result => ∃ s, d = .scalar s ∧ s.type = t.valueType ∧ s.nullable = t.nullable
  | .argument i => ∃ e c param, d = .entity e ∧ selected.bind (e.constructors[·]?) = some c ∧ c.params[i]? = some param ∧
    param.type = t.valueType ∧ param.nullable = t.nullable
  | .member i => ∃ e m, d = .entity e ∧ e.members[i]? = some m ∧ m.type = t.valueType ∧ m.nullable = t.nullable
  | .parameter _ => False

/-- What the member does to an object: it converts a value to the native type, and stores what the conversion gives. -/
def MemberDef.Stores (m : MemberDef α) (t : NativeType) (a : α) (f : t.Carrier → α) : Prop :=
  ∃ put, m.set = some put ∧ ∀ v, put a v = (t.ofValue v).map f

/-- The members of a declaration do. -/
theorem DefinitionOutline.memberDef_stores {m : MemberOutline NativeType} (h : m.writable = true) (r : Record) :
    (memberDef m).Stores m.type r fun x => r.set m.name (m.type.toValue x) := by
  refine ⟨_, if_pos h, fun v => ?_⟩
  unfold NativeType.store
  cases m.type.ofValue v <;> rfl

/-- So do members that are embedded into a common type. -/
theorem MemberDef.Stores.embed {inject : β → α} {project : α → Option β} {m : MemberDef β} {t : NativeType} {b : β}
    {f : t.Carrier → β} (hproject : project (inject b) = some b) (h : m.Stores t b f) :
    (m.embed inject project).Stores t (inject b) fun x => inject (f x) := by
  obtain ⟨put, hput, hset⟩ := h
  refine ⟨_, by rw [MemberDef.embed, hput, Option.map_some], fun v => ?_⟩
  rw [hproject]
  dsimp only
  rw [hset]
  cases t.ofValue v <;> rfl

/-- An operation whose value no handler sees, for a destination of a native type. -/
structure Plan.Fills (plan : Plan) (d : TypeDef α) (op : Operation) (t : NativeType) : Prop where
  planned : op ∈ plan.operations
  unhandled : op.handler = none
  receives : d.Receives plan.selected t op.destination

/-! ## Operations without a handler -/

/-- A value that has the type already is left as it is. -/
theorem Coercion.apply_between (mode : ConversionMode) (s : ValueType) {t : ValueType} {d : Datum} (h : d.type = t) :
    (between mode s t).apply (.datum d) = .ok (.datum d) := by
  have hconvert : (Value.datum d).convert t = .ok (.datum d) := by
    rw [Value.convert, Datum.convert, if_pos h]
    rfl
  have hcast : (Value.datum d).cast t = .ok (.datum d) := by
    rw [Value.cast, Datum.cast, if_pos h]
    rfl
  unfold between
  split
  · rfl
  · split
    · exact hconvert
    · exact hconvert
    · exact hcast

/-- How an operation without a handler adapts values for a destination of a type. -/
structure Operation.Plain (op : Operation) (t : ValueType) (nullable : Bool) : Prop where
  handler : op.handler = none
  onNull : op.onNull = Plan.nullReplacement nullable false t
  coercion : ∃ mode s, op.coercion = .between mode s t

namespace Plan

variable {rules : Rules α} {d : TypeDef α} {p : Fingerprint} {plan : Plan} {op : Operation}

theorem plain_inboundOperation {target : TypeName} {member : String} {f : Field} {source : Nat} {t : ValueType}
    {nullable : Bool} {destination : Slot}
    (h : (inboundOperation (rules.resolveInbound target member t f.type) f source t nullable destination).handler = none) :
    (inboundOperation (rules.resolveInbound target member t f.type) f source t nullable destination).Plain t nullable := by
  have hfind : rules.valueHandler? target member = none := h
  refine ⟨h, ?_, rules.settings.mode, f.type, ?_⟩
  · show nullReplacement nullable (rules.valueHandler? target member).isSome t = _
    rw [hfind]
    rfl
  · show Coercion.between _ _ (((rules.valueHandler? target member).map (·.storage)).getD t) = _
    rw [hfind]
    rfl

/-- **An operation without a handler is planned for the type of its destination.** -/
theorem ofRow_plain (h : ofRow rules d p = .ok plan) {t : NativeType} (hop : op ∈ plan.operations)
    (hhandler : op.handler = none) (ht : d.Receives plan.selected t op.destination) :
    op.Plain t.valueType t.nullable := by
  cases d with
  | scalar s =>
    obtain ⟨f, -, rfl⟩ := ofRow_scalar h
    obtain rfl := List.mem_singleton.1 hop
    obtain ⟨s', hs, htype, hnullable⟩ := ht
    obtain rfl := TypeDef.scalar.inj hs
    rw [← htype, ← hnullable]
    exact plain_inboundOperation hhandler
  | entity e =>
    obtain ⟨i, c, args, -, -, hc, -, -, hselected, hops, hleft, hright⟩ := ofRow_entity h
    rw [hops] at hop
    rcases List.mem_append.1 hop with hop | hop
    · obtain ⟨a, -, ha⟩ := exists_of_mem_forall₂ hleft.flip hop
      obtain ⟨f, param, -, hparam, rfl⟩ := argumentOperation?_eq_some ha
      obtain ⟨e', c', param', he, hc', hparam', htype, hnullable⟩ := ht
      obtain rfl := TypeDef.entity.inj he
      rw [hselected, Option.bind_some, hc] at hc'
      obtain rfl := Option.some.inj hc'
      obtain rfl : param = param' := Option.some.inj (hparam.symm.trans hparam')
      rw [← htype, ← hnullable]
      exact plain_inboundOperation hhandler
    · obtain ⟨b, -, hb⟩ := exists_of_mem_forall₂ hright.flip hop
      obtain ⟨f, m, -, hm, rfl⟩ := assignmentOperation?_eq_some hb
      obtain ⟨e', m', he, hm', htype, hnullable⟩ := ht
      obtain rfl := TypeDef.entity.inj he
      obtain rfl : m = m' := Option.some.inj (hm.symm.trans hm')
      rw [← htype, ← hnullable]
      exact plain_inboundOperation hhandler

end Plan

namespace Operation.Plain

variable {op : Operation} {t : NativeType} {x : t.Carrier}

/-- For every NULL the operation delivers the blank value. -/
theorem deliver_null (h : op.Plain t.valueType t.nullable) (hx : t.blank? = some x) {n : Value} (hn : n.isNull = true) :
    op.deliver n = .ok (t.toValue x) :=
  Operation.deliver_null hn (h.onNull.trans (NativeType.nullReplacement_blank hx))

/-- The blank value itself is delivered as it is. -/
theorem deliver_blank (h : op.Plain t.valueType t.nullable) (hx : t.blank? = some x) :
    op.deliver (t.toValue x) = .ok (t.toValue x) := by
  have hstored : t.Stored (t.toValue x) := ⟨x, rfl⟩
  rcases hstored.cases with ⟨d, hd, htype⟩ | ⟨hnull, -⟩
  · obtain ⟨mode, s, hmode⟩ := h.coercion
    rw [hd, deliver_datum h.handler, hmode, Coercion.apply_between mode s htype]
  · exact h.deliver_null hx (by rw [hnull]; rfl)

end Operation.Plain

/-! ## Rows that differ in one place -/

/-- The rows differ in one place, where one has this value and the other that one. -/
def DiffersAt (k : Nat) (n y : Value) (v w : List Value) : Prop := v[k]? = some n ∧ w = v.set k y

namespace Operation

variable {op : Operation} {k : Nat} {n y : Value}

theorem run_elsewhere (h : op.source ≠ k) : RowReader.Carries (DiffersAt k n y) (DiffersAt k n y) op.run := by
  rintro v _ ⟨hn, rfl⟩
  rw [run_eq, run_eq, List.getElem?_set_ne (Ne.symm h)]
  cases op.deliver (v[op.source]?.getD .untyped) with
  | error e => exact .error e
  | ok u => exact .ok u ⟨(List.getElem?_set_ne h).trans hn, List.set_comm _ _ (Ne.symm h)⟩

theorem run_there (h : op.source = k) (hdeliver : op.deliver y = op.deliver n) :
    RowReader.Carries (DiffersAt k n y) Eq op.run := by
  rintro v _ ⟨hn, rfl⟩
  obtain ⟨hk, -⟩ := List.getElem?_eq_some_iff.1 hn
  rw [← h] at hn hk ⊢
  rw [run_of_getElem? hn, run_of_getElem? (List.getElem?_set_self hk), hdeliver, List.set_set]
  cases op.deliver n with
  | error e => exact .error e
  | ok u => exact .ok u rfl

theorem source_of_find? {ops : List Operation} (h : ops.find? (·.source == k) = some op) : op.source = k := by
  simpa using List.find?_some h

theorem find?_cons_eq_some {first : Operation} {ops : List Operation}
    (h : (first :: ops).find? (·.source == k) = some op) :
    first = op ∨ first.source ≠ k ∧ ops.find? (·.source == k) = some op := by
  rw [List.find?_cons] at h
  split at h
  · exact .inl (Option.some.inj h)
  · rename_i hne
    exact .inr ⟨by simpa using hne, h⟩

/-- The first operation that reads a position is the first of the arguments that do, or of the assignments if no
argument does. -/
theorem find?_operations {plan : Plan} {d : TypeDef α} (h : plan.WellFormed d) {e : EntityDef α} (hd : d = .entity e)
    (hop : plan.operations.find? (·.source == k) = some op) :
    plan.arguments.find? (·.source == k) = some op ∨
      (∀ other ∈ plan.arguments, other.source ≠ k) ∧ plan.assignments.find? (·.source == k) = some op := by
  have hbody := h.body
  rw [hd] at hbody
  obtain ⟨c, hbuilds⟩ := hbody
  rw [hbuilds.operations, List.find?_append] at hop
  cases harguments : plan.arguments.find? (·.source == k) with
  | some other =>
    rw [harguments] at hop
    exact .inl hop
  | none =>
    rw [harguments] at hop
    refine .inr ⟨fun other hother heq => ?_, hop⟩
    exact List.find?_eq_none.1 harguments other hother (beq_iff_eq.2 heq)

end Operation

namespace RowReader

variable {op : Operation} {k : Nat} {n y : Value} {P : List Value → List Value → Prop}

/-- Once the operation that reads the place has run, nothing is left of the difference. -/
theorem Carries.mapM_first {step : Operation → RowReader β} (hstep : Carries P Eq (step op)) : ∀ {ops : List Operation},
    (∀ other ∈ ops, other.source ≠ k → Carries P P (step other)) → ops.find? (·.source == k) = some op →
      Carries P Eq (ops.mapM step)
  | [], _, hop => by cases hop
  | first :: ops, hother, hop => by
    rw [List.mapM_cons]
    rcases Operation.find?_cons_eq_some hop with rfl | ⟨hfirst, hop⟩
    · exact hstep.bind fun b => carries_eq _
    · refine (hother first List.mem_cons_self hfirst).bind fun b => ?_
      exact (mapM_first hstep (fun other h => hother other (List.mem_cons_of_mem _ h)) hop).bind fun bs => carries_pure _

theorem Carries.foldlM_first {step : γ → Operation → RowReader γ} (hstep : ∀ c, Carries P Eq (step c op)) :
    ∀ {ops : List Operation}, (∀ other ∈ ops, other.source ≠ k → ∀ c, Carries P P (step c other)) →
      ops.find? (·.source == k) = some op → ∀ c, Carries P Eq (ops.foldlM step c)
  | [], _, hop => by cases hop
  | first :: ops, hother, hop => by
    intro c
    rw [List.foldlM_cons]
    rcases Operation.find?_cons_eq_some hop with rfl | ⟨hfirst, hop⟩
    · exact (hstep c).bind fun b => carries_eq _
    · refine (hother first List.mem_cons_self hfirst c).bind fun b => ?_
      exact foldlM_first hstep (fun other h => hother other (List.mem_cons_of_mem _ h)) hop b

end RowReader

/-! ## Whole reads -/

namespace RowRoutine

variable {schema : Schema α} {rules : Rules α} {p : Fingerprint} {r : RowRoutine α} {op : Operation} {k : Nat}
  {n y : Value}

theorem assign_carries {P Q : List Value → List Value → Prop} {setters : List (Option (α → Value → Result α))}
    (hset : ∃ put, setter? setters op = some put) (hrun : RowReader.Carries P Q op.run) (target : TypeName) (a : α) :
    RowReader.Carries P Q (assign target setters a op) := by
  obtain ⟨put, hput⟩ := hset
  unfold assign
  rw [hput]
  exact hrun.reading target op.name (put a)

/-- The operation that is the first to read the place ends the difference between the rows. -/
theorem produce_carries {plan : Plan} {body : RowBody α} {d : TypeDef α} (hplan : plan.WellFormed d)
    (hbody : bodyOf d plan = .ok body) (hset : AllSet plan body)
    (hop : plan.operations.find? (·.source == k) = some op) (hdeliver : op.deliver y = op.deliver n) :
    RowReader.Carries (DiffersAt k n y) Eq (produce plan body) := by
  have hthere : RowReader.Carries (DiffersAt k n y) Eq op.run :=
    Operation.run_there (Operation.source_of_find? hop) hdeliver
  cases d with
  | scalar s =>
    obtain rfl := Except.ok.inj hbody
    obtain ⟨only, hops, -, -⟩ := hplan.body
    rw [hops] at hop
    obtain rfl := List.mem_singleton.1 (List.mem_of_find?_eq_some hop)
    unfold produce
    rw [hops]
    exact hthere.reading _ _ _
  | entity e =>
    obtain ⟨c, hbuilds⟩ := hplan.body
    rw [bodyOf_of_builds hbuilds] at hbody
    obtain rfl := Except.ok.inj hbody
    rcases Operation.find?_operations hplan rfl hop with harguments | ⟨hnone, hassignments⟩
    · have hgather : RowReader.Carries (DiffersAt k n y) Eq (gather plan.fingerprint.target plan.arguments) :=
        RowReader.Carries.mapM_first (hthere.reading _ _ _)
          (fun other _ hne => (Operation.run_elsewhere hne).reading _ _ _) harguments
      exact hgather.bind fun arguments => RowReader.carries_eq _
    · have hgather : RowReader.Carries (DiffersAt k n y) (DiffersAt k n y) (gather plan.fingerprint.target plan.arguments) :=
        RowReader.Carries.mapM fun other hother => (Operation.run_elsewhere (hnone other hother)).reading _ _ _
      refine hgather.bind fun arguments => (RowReader.carries_lift _).bind fun object => ?_
      have hop := List.mem_of_find?_eq_some hassignments
      exact RowReader.Carries.foldlM_first (fun a => assign_carries (hset op hop) hthere _ a)
        (fun other hother hne a => assign_carries (hset other hother) (Operation.run_elsewhere hne) _ a) hassignments object

/-- Values that the first operation to read them delivers alike are read alike. -/
theorem call_set (hr : compile schema rules p = .ok r) (hop : r.plan.operations.find? (·.source == k) = some op)
    (hdeliver : op.deliver y = op.deliver n) {row : Row} (hrow : row.values[k]? = some n) :
    r.call row = r.call ⟨row.fields, row.values.set k y⟩ := by
  obtain ⟨hplan, hbody⟩ := compile_eq_ok hr
  have hformed := Plan.wellFormed_ofRow hplan
  obtain ⟨body, hbody', hset⟩ := bodyOf_of_wellFormed hformed
  obtain rfl := Except.ok.inj (hbody'.symm.trans hbody)
  have hend := produce_carries hformed hbody hset hop hdeliver _ _ ⟨hrow, rfl⟩
  rw [call_eq, call_eq, List.length_set]
  dsimp only
  generalize produce r.plan r.body row.values = ran at hend ⊢
  generalize produce r.plan r.body (row.values.set k y) = ran' at hend ⊢
  cases hend <;> rfl

/-! ## What a destination receives -/

/-- There is a NULL at this place, of some type or of none. -/
def NullAt (k : Nat) (values : List Value) : Prop := ∃ n, values[k]? = some n ∧ n.isNull = true

theorem NullAt.set_untyped {values : List Value} (h : NullAt k values) (j : Nat) : NullAt k (values.set j .untyped) := by
  obtain ⟨n, hn, hnull⟩ := h
  obtain ⟨hk, -⟩ := List.getElem?_eq_some_iff.1 hn
  by_cases hj : j = k
  · exact ⟨.untyped, by rw [hj, List.getElem?_set_self hk], rfl⟩
  · exact ⟨n, (List.getElem?_set_ne hj).trans hn, hnull⟩

/-- A NULL stays one: an operation leaves it, or takes it and leaves another. -/
theorem run_keepsNull (op : Operation) : RowReader.AgreeOn (NullAt k) op.run op.run := by
  refine fun values hnull => ⟨rfl, fun v rest hrun => ?_⟩
  rw [Operation.run_eq] at hrun
  obtain ⟨w, -, hrest⟩ := Result.map_eq_ok_iff.1 hrun
  obtain ⟨-, rfl⟩ := Prod.mk.inj hrest
  exact hnull.set_untyped op.source

theorem gather_keepsNull (target : TypeName) (ops : List Operation) :
    RowReader.AgreeOn (NullAt k) (gather target ops) (gather target ops) := by
  refine RowReader.composes_agreeOn.mapM (List.forall₂_same.2 fun _ _ => rfl) ?_
  rintro op _ rfl
  exact (run_keepsNull op).reading target op.name pure

theorem assign_keepsNull (target : TypeName) (setters : List (Option (α → Value → Result α))) (a : α) (op : Operation) :
    RowReader.AgreeOn (NullAt k) (assign target setters a op) (assign target setters a op) := by
  unfold assign
  cases setter? setters op with
  | some put => exact (run_keepsNull op).reading target op.name (put a)
  | none => exact RowReader.agreeOn_pure a

theorem assignments_keepNull (target : TypeName) (setters : List (Option (α → Value → Result α))) (ops : List Operation)
    (a : α) : RowReader.AgreeOn (NullAt k) (ops.foldlM (assign target setters) a) (ops.foldlM (assign target setters) a) := by
  refine RowReader.composes_agreeOn.foldlM (List.forall₂_same.2 fun _ _ => rfl) ?_ a
  rintro built op _ rfl
  exact assign_keepsNull target setters built op

theorem finds_null {values : List Value} (h : NullAt op.source values) (before : List Operation) :
    (op.finds before values).isNull = true := by
  obtain ⟨n, hn, hnull⟩ := h
  unfold Operation.finds
  split
  · rfl
  · rw [hn]
    exact hnull

/-- Reading a row gets as far as an assignment: the arguments are gathered, and the assignments before it have been made to
an object that was there. -/
def Reaches (r : RowRoutine α) (setters : List (Option (α → Value → Result α))) (op : Operation) (row : Row) (a : α)
    (values : List Value) : Prop :=
  ∃ arguments rest before after object, gather r.fingerprint.target r.plan.arguments row.values = .ok (arguments, rest) ∧
    r.plan.assignments = before ++ op :: after ∧
    before.foldlM (assign r.fingerprint.target setters) object rest = .ok (a, values)

theorem Reaches.nullAt {setters : List (Option (α → Value → Result α))} {row : Row} {a : α} {values : List Value}
    (h : r.Reaches setters op row a values) (hnull : NullAt k row.values) : NullAt k values := by
  obtain ⟨arguments, rest, before, after, object, hgather, -, hbefore⟩ := h
  have hrest := (gather_keepsNull _ _ row.values hnull).2 _ _ hgather
  exact (assignments_keepNull _ _ before object rest hrest).2 _ _ hbefore

/-- The destination of an operation receives a native value out of a row: a constructor that takes its argument in that
type, after whatever other arguments, a member that stores that type, and a scalar that is made from that type. -/
def Gives (r : RowRoutine α) (d : TypeDef α) (op : Operation) (t : NativeType) (x : t.Carrier) (row : Row) : Prop :=
  match op.destination with
  | .argument i => ∀ vs rest (left : Args), gather r.fingerprint.target r.plan.arguments row.values = .ok (vs, rest) →
    left.values[i]? = vs[i]? → (Args.take t i).run left = (.ok x, ⟨left.values.set i .untyped⟩)
  | .member i => ∀ e m a values (f : t.Carrier → α), d = .entity e → e.members[i]? = some m → m.Stores t a f →
    r.Reaches (e.members.map (·.set)) op row a values →
      assign r.fingerprint.target (e.members.map (·.set)) a op values = .ok (f x, values.set op.source .untyped)
  | .result => ∀ s (f : t.Carrier → α), d = .scalar s → (∀ v, s.ofValue v = (t.ofValue v).map f) →
    row.values.length = r.fingerprint.fields.length → r.call row = r.finish (f x)
  | .parameter _ => False

/-- An argument is what its operation delivers. -/
theorem gather_argument {plan : Plan} {e : EntityDef α} {c : ConstructorDef α} (h : plan.Builds e c)
    (hop : op ∈ plan.operations) {i : Nat} (hi : op.destination = .argument i) {target : TypeName}
    {values vs rest : List Value} (hgather : gather target plan.arguments values = .ok (vs, rest)) :
    ∃ v before, vs[i]? = some v ∧ op.deliver (op.finds before values) = .ok v := by
  have hmem : op ∈ plan.arguments := List.mem_filter.2 ⟨hop, by rw [hi]; rfl⟩
  obtain ⟨j, hj⟩ := List.mem_iff_getElem?.1 hmem
  obtain rfl : i = j := Slot.argument.inj (hi.symm.trans (destination_of_builds h hj))
  obtain ⟨v, hv, hdeliver⟩ := (gather_eq_ok hgather).2 i op hj
  exact ⟨v, _, hv, hdeliver⟩

/-- A destination whose operation delivers one value for every NULL receives what its type makes of that value. -/
theorem gives_of_null (hr : compile schema rules p = .ok r) {t : NativeType} (h : r.plan.Fills (schema p.target) op t)
    {x : t.Carrier} {u : Value} (hu : ∀ null : Value, null.isNull = true → op.deliver null = .ok u)
    (hx : t.ofValue u = .ok x) {row : Row} (hrow : NullAt op.source row.values) : r.Gives (schema p.target) op t x row := by
  obtain ⟨hplan, hbody⟩ := compile_eq_ok hr
  have hshape := (Plan.wellFormed_ofRow hplan).body
  obtain ⟨hop, -, hreceives⟩ := h
  have hyields : ∀ {values : List Value}, NullAt op.source values → op.Yields values u := by
    rintro values ⟨null, hvalue, hnull⟩
    exact ⟨null, hvalue, hu null hnull⟩
  unfold Gives
  cases hdestination : op.destination with
  | argument i =>
    rw [hdestination] at hreceives
    obtain ⟨e, -, -, hd, -⟩ := hreceives
    rw [hd] at hshape
    obtain ⟨c, hbuilds⟩ := hshape
    intro vs rest left hgather hleft
    obtain ⟨v, before, hv, hdeliver⟩ := gather_argument hbuilds hop hdestination hgather
    obtain rfl := Except.ok.inj ((hu _ (finds_null hrow before)).symm.trans hdeliver)
    exact Args.take_of_ofValue (hleft.trans hv) hx
  | member i =>
    rintro e m a values f - hm ⟨put, hput, hset⟩ hreaches
    have hconverted : put a u = .ok (f x) := by
      rw [hset, hx]
      rfl
    unfold assign
    rw [setter?_of_member hdestination hm hput]
    exact atField_of_yields (hyields (hreaches.nullAt hrow)) hconverted
  | result =>
    intro s f hd hset hlength
    rw [hd] at hbody hshape
    obtain ⟨only, hops, -, -⟩ := hshape
    rw [hops] at hop
    obtain rfl := List.mem_singleton.1 hop
    have hconverted : s.ofValue u = .ok (f x) := by
      rw [hset, hx]
      rfl
    have hproduce : produce r.plan r.body row.values = .ok (f x, row.values.set op.source .untyped) := by
      rw [← Except.ok.inj hbody]
      unfold produce
      dsimp only
      rw [hops]
      exact atField_of_yields (hyields hrow) hconverted
    rw [call_eq, if_pos hlength]
    rw [hproduce]
    rfl
  | parameter storage =>
    rw [hdestination] at hreceives
    exact hreceives

/-- **A NULL is never a failure where no handler sees it.**  It reads as the blank value of the destination's native type:
for every NULL the operation delivers the stored form of that value, from which the type makes the value again; the
parameter, the member or the scalar receives the blank value; and if the operation is the first to read its source, the
whole row is read as the row that has the stored form in the place of the NULL.  The column may have any type, the rules
any mode, and the NULL any type or none. -/
theorem call_null (hr : compile schema rules p = .ok r) {t : NativeType} (h : r.plan.Fills (schema p.target) op t)
    (hvariants : ∀ e, t.valueType = .enumeration e → e.variants ≠ []) {row : Row} (hn : n.isNull = true)
    (hrow : row.values[op.source]? = some n) :
    ∃ x, t.blank? = some x ∧ (∀ null : Value, null.isNull = true → op.deliver null = .ok (t.toValue x)) ∧
      t.ofValue (t.toValue x) = .ok x ∧ r.Gives (schema p.target) op t x row ∧
      (r.plan.operations.find? (·.source == op.source) = some op →
        r.call row = r.call ⟨row.fields, row.values.set op.source (t.toValue x)⟩) := by
  obtain ⟨x, hx⟩ := t.exists_blank hvariants
  have hplain := Plan.ofRow_plain (compile_eq_ok hr).1 h.planned h.unhandled h.receives
  have hdeliver : ∀ null : Value, null.isNull = true → op.deliver null = .ok (t.toValue x) :=
    fun null => hplain.deliver_null hx
  have hvalue := NativeType.ofValue_blank hx
  refine ⟨x, hx, hdeliver, hvalue, gives_of_null hr h hdeliver hvalue ⟨n, hrow, hn⟩, fun hfirst => ?_⟩
  exact call_set hr hfirst ((hplain.deliver_blank hx).trans (hdeliver n hn).symm) hrow

/-- The identifier of an account, which its constructor takes first, from a NULL that is a text. -/
theorem call_null_account :
    ∃ r op, compile (fun _ => .entity accountEntity) (.ofSettings {}) accountShape = .ok r ∧
      r.plan.Fills (.entity accountEntity) op Sample.int64 ∧ op.destination = .argument 0 ∧
      op.deliver (.null .varchar) = .ok (.datum (.integer .int64 (Bounded.zero .int64))) ∧
      r.call ⟨accountShape.fields, [.untyped, .null .varchar, .varchar "a", .untyped]⟩ =
        r.call ⟨accountShape.fields, [.untyped, .datum (.integer .int64 (Bounded.zero .int64)), .varchar "a", .untyped]⟩ := by
  have hmap : (Plan.ofRow (.ofSettings {}) (.entity accountEntity) accountShape).map
      (fun plan => (plan.selected, plan.operations.map fun op => (op.source, op.destination, op.handler.isNone))) =
        .ok (some 2, [(1, .argument 0, true), (2, .argument 1, true), (3, .argument 2, true), (0, .member 3, true)]) := by
    decide
  obtain ⟨plan, hplan, hshown⟩ := Result.map_eq_ok_iff.1 hmap
  obtain ⟨hselected, hops⟩ := Prod.mk.inj hshown
  obtain ⟨op, ops, hplanned, hop, -⟩ := List.map_eq_cons_iff.1 hops
  obtain ⟨hsource, hdestination, hhandler⟩ : op.source = 1 ∧ op.destination = .argument 0 ∧ op.handler.isNone = true := by
    simpa using hop
  obtain ⟨body, hbody, -⟩ := bodyOf_of_wellFormed (Plan.wellFormed_ofRow hplan)
  have hr : compile (fun _ => .entity accountEntity) (.ofSettings {}) accountShape = .ok ⟨plan, body, none⟩ :=
    Result.bind_eq_ok_iff.2 ⟨plan, hplan, Result.bind_eq_ok_iff.2 ⟨body, hbody, rfl⟩⟩
  have hfills : plan.Fills (.entity accountEntity) op Sample.int64 := by
    refine ⟨hplanned ▸ List.mem_cons_self, Option.isNone_iff_eq_none.1 hhandler, ?_⟩
    rw [hselected, hdestination]
    exact ⟨accountEntity, _, _, rfl, rfl, rfl, rfl, rfl⟩
  have hfirst : plan.operations.find? (·.source == op.source) = some op := by
    rw [hplanned]
    exact List.find?_cons_of_pos (beq_self_eq_true op.source)
  have hrow : (Row.mk accountShape.fields [.untyped, .null .varchar, .varchar "a", .untyped]).values[op.source]? =
      some (.null .varchar) := by
    rw [hsource]
    rfl
  obtain ⟨x, hx, hdeliver, -, -, hcall⟩ := call_null hr hfills (fun e he => by cases he) rfl hrow
  obtain rfl : Bounded.zero .int64 = x := Option.some.inj hx
  refine ⟨_, op, hr, hfills, hdestination, hdeliver _ rfl, ?_⟩
  have hread := hcall hfirst
  rw [hsource] at hread
  exact hread

end RowRoutine

end RowBinding
