import RowBinding.Proofs.PlanRuns
import RowBinding.Proofs.SharedRoutine
import RowBinding.Proofs.Sources
/-!
# Reading staged rows

A staged row has a column for every member, so the constructor finds all its arguments in it and every other member
that can be set is assigned.  **What is read from the staged row of an object has the members of the object**, those
that the constructor takes and those that can be set (`call_staged`).
-/
namespace RowBinding

variable {α : Type}

/-- The value of the member at a position. -/
def EntityDef.valueAt (e : EntityDef α) (object : α) (i : Nat) : Value :=
  (e.members[i]?.map (·.get object)).getD .untyped

theorem EntityDef.valueAt_eq {e : EntityDef α} {i : Nat} {m : MemberDef α} (hm : e.members[i]? = some m) (object : α) :
    e.valueAt object i = m.get object := by
  rw [valueAt, hm, Option.map_some, Option.getD_some]

/-- A parameter of the constructor has the name of the member. -/
def ConstructorDef.Takes (c : ConstructorDef α) (m : MemberDef α) : Prop :=
  ∃ param ∈ c.params, Text.sameName m.name param.name = true

namespace Staged

variable {e : EntityDef α} {types : List NativeType} {I : α → Prop} {storage : StorageType} {fields : List Field}
  {order : List Nat}

theorem arguments_staged (h : Staged e storage fields order) (hnames : e.WellNamed) (hfields : Field.Distinct fields)
    {c : ConstructorDef α} {args : List ArgumentBinding} (hargs : e.arguments? fields c = some args)
    {positions : List Nat} (hparams : List.Forall₂ e.Feeds c.params positions) :
    List.Forall₂ (fun a i => order[a.field]? = some i ∧ a.member = some i ∧
      ∃ param, c.params[a.param]? = some param ∧ e.Feeds param i) args positions := by
  obtain ⟨hlen, hall⟩ := EntityDef.arguments?_eq_some_iff.1 hargs
  refine forall₂_of_getElem? (hlen.symm.trans hparams.length_eq) fun l a i ha hi => ?_
  obtain ⟨param, hparam⟩ : ∃ param, c.params[l]? = some param :=
    ⟨_, List.getElem?_eq_getElem (hlen ▸ (List.getElem?_eq_some_iff.1 ha).1)⟩
  obtain ⟨hfield, rfl, hmember⟩ := hall l param a hparam ha
  have hfeeds : e.Feeds param i := forall₂_getElem? hparams hparam hi
  have ⟨m, hm, hname, _⟩ := hfeeds
  obtain ⟨k, f, hk, -⟩ := h.exists_column hm
  rw [h.parameterField?_staged hnames hfields hfeeds hk] at hfield
  rw [EntityDef.memberNamed?_eq hnames hm hname] at hmember
  exact ⟨Option.some.inj hfield ▸ hk, hmember, param, hparam, hfeeds⟩

theorem nodup_fields {args : List ArgumentBinding} {positions : List Nat}
    (hargs : List.Forall₂ (fun a i => order[a.field]? = some i) args positions) (h : positions.Nodup) :
    (args.map (·.field)).Nodup := by
  have hmap : (args.map (·.field)).map (order[·]?) = positions.map some := by
    rw [List.map_map]
    exact map_eq_of_forall₂ hargs fun a i hi => hi
  refine List.Nodup.of_map (order[·]?) ?_
  rw [hmap]
  exact (List.nodup_map_iff fun _ _ => Option.some.inj).2 h

/-- A member that can be set and that the constructor does not take is assigned from its column. -/
theorem exists_assignment (h : Staged e storage fields order) (hnames : e.WellNamed) {args : List ArgumentBinding}
    {positions : List Nat} (hargs : List.Forall₂ (fun a i => order[a.field]? = some i ∧ a.member = some i) args positions)
    {i : Nat} {m : MemberDef α} (hm : e.members[i]? = some m) (hwritable : m.isWritable = true) (hi : i ∉ positions) :
    ∃ b ∈ e.assignments fields args, b.member = i := by
  obtain ⟨k, f, hk, hf, -⟩ := h.exists_column hm
  have hother : ∀ a ∈ args, a.field ≠ k ∧ a.member ≠ some i := by
    intro a ha
    obtain ⟨j, hj, hfield, hmember⟩ := exists_of_mem_forall₂ hargs ha
    have hne : j ≠ i := fun heq => hi (heq ▸ hj)
    refine ⟨fun heq => hne ?_, fun heq => hne ?_⟩
    · exact Option.some.inj (hfield.symm.trans (heq ▸ hk))
    · exact Option.some.inj (hmember.symm.trans heq)
  have hwants : e.Wants fields args k i :=
    ⟨f, hf, fun a ha => (hother a ha).1, (h.memberOf?_staged hnames hf).trans hk, ⟨m, hm, hwritable⟩,
      fun a ha => (hother a ha).2⟩
  obtain ⟨j, hj⟩ := EntityDef.exists_first_iff.2 ⟨k, hwants⟩
  exact ⟨⟨j, i⟩, EntityDef.mem_assignments_iff.2 hj, rfl⟩

end Staged

/-- The values are the staged row of an object of a derived entity, whose variants the storage type keeps apart. -/
structure StagedObject (e : EntityDef α) (types : List NativeType) (I : α → Prop) (storage : StorageType)
    (fields : List Field) (order : List Nat) (object : α) (values : List Value) : Prop where
  derived : e.Derived types I
  legible : ∀ t ∈ types, t.Legible
  keeps : storage.keepsVariants = true
  columns : Staged e storage fields order
  row : StagedValues e storage object values order
  holds : I object

namespace StagedObject

variable {e : EntityDef α} {types : List NativeType} {I : α → Prop} {storage : StorageType} {fields : List Field}
  {order : List Nat} {object : α} {values : List Value} {rules : Rules α} {p : Fingerprint} {op : Operation}

/-- An operation without a rule delivers the value of the member whose column it reads. -/
theorem inbound_yields (h : StagedObject e types I storage fields order object values) {k i : Nat} {m : MemberDef α}
    {f : Field} (hk : order[k]? = some i) (hm : e.members[i]? = some m) (hf : fields[k]? = some f)
    (mode : ConversionMode) (destination : Slot) :
    (Plan.inboundOperation ⟨m.type, .between mode f.type m.type, none, none⟩ f k m.type m.nullable
      destination).Yields values (m.get object) := by
  obtain ⟨t, ht, hv⟩ := h.derived.get h.holds hm
  obtain ⟨htype, hnullable⟩ := forall₂_getElem? h.derived.typed hm ht
  have hlt : k < values.length := h.row.length ▸ (List.getElem?_eq_some_iff.1 hk).1
  have hw : values[k]? = some values[k] := List.getElem?_eq_getElem hlt
  obtain ⟨n, hn, hsent⟩ := h.row.value hk hw
  obtain rfl : m = n := Option.some.inj (hm.symm.trans hn)
  obtain ⟨n, hn, -, hcolumn⟩ := h.columns.column hk hf
  obtain rfl : m = n := Option.some.inj (hm.symm.trans hn)
  rw [htype] at hsent hcolumn
  have hcoercion : Coercion.between mode f.type m.type =
      .between mode (Rules.written storage t.valueType).1 t.valueType := by rw [htype, hcolumn]
  have hnull : Plan.nullReplacement m.nullable false m.type = Plan.nullReplacement t.nullable false t.valueType := by
    rw [htype, hnullable]
  exact ⟨values[k], hw,
    Operation.deliver_written (h.legible t (List.mem_of_getElem? ht)) hv h.keeps hsent hcoercion rfl hnull⟩

theorem argument_yields (h : StagedObject e types I storage p.fields order object values)
    (hrules : rules.isEmpty = true) {c : ConstructorDef α} {a : ArgumentBinding}
    (hop : Plan.argumentOperation? rules p e c a = some op) {i : Nat} {param : ParamDef} (hk : order[a.field]? = some i)
    (hparam : c.params[a.param]? = some param) (hfeeds : e.Feeds param i) :
    op.Yields values (e.valueAt object i) := by
  obtain ⟨f, other, hf, hother, rfl⟩ := Plan.argumentOperation?_eq_some hop
  obtain rfl : param = other := Option.some.inj (hparam.symm.trans hother)
  obtain ⟨m, hm, -, htype, hnullable⟩ := hfeeds
  rw [Rules.resolveInbound_of_isEmpty hrules, EntityDef.valueAt_eq hm, htype, hnullable]
  exact h.inbound_yields hk hm hf _ _

/-- Every assignment restores its member. -/
theorem assignments_restore (h : StagedObject e types I storage p.fields order object values) (hnames : e.WellNamed)
    (hrules : rules.isEmpty = true) {args : List ArgumentBinding} {ops : List Operation}
    (hops : List.Forall₂ (fun b op => Plan.assignmentOperation? rules p e b = some op) (e.assignments p.fields args) ops) :
    ∀ op ∈ ops, RowRoutine.Restores e object values op := by
  intro op hop
  obtain ⟨b, hb, hbop⟩ := exists_of_mem_forall₂ hops.flip hop
  obtain ⟨g, hg, -, hmember, ⟨n, hn, hwritable⟩, -⟩ := (EntityDef.mem_assignments_iff.1 hb).1
  obtain ⟨f, m, hf, hm, rfl⟩ := Plan.assignmentOperation?_eq_some hbop
  obtain rfl : n = m := Option.some.inj (hn.symm.trans hm)
  obtain ⟨put, hput⟩ := Option.isSome_iff_exists.1 hwritable
  rw [h.columns.memberOf?_staged hnames hg] at hmember
  refine ⟨b.member, n, put, rfl, hm, hput, ?_⟩
  rw [Rules.resolveInbound_of_isEmpty hrules]
  exact h.inbound_yields hmember hm hf _ _

theorem arguments_yield (h : StagedObject e types I storage p.fields order object values) (hrules : rules.isEmpty = true)
    {c : ConstructorDef α} {args : List ArgumentBinding} {ops : List Operation} {positions : List Nat}
    (hops : List.Forall₂ (fun a op => Plan.argumentOperation? rules p e c a = some op) args ops)
    (hargs : List.Forall₂ (fun a i => order[a.field]? = some i ∧ a.member = some i ∧
      ∃ param, c.params[a.param]? = some param ∧ e.Feeds param i) args positions) :
    List.Forall₂ (fun op v => op.Yields values v) ops (positions.map (e.valueAt object)) := by
  rw [List.forall₂_map_right_iff]
  refine forall₂_comp (fun op a i hop hai => ?_) hops.flip hargs
  obtain ⟨hk, -, param, hparam, hfeeds⟩ := hai
  exact h.argument_yields hrules hop hk hparam hfeeds

/-- The selected constructor finds its arguments and builds an object that agrees in the members it takes; the row keeps
what is no source of an argument. -/
theorem build_staged (h : StagedObject e types I storage p.fields order object values) (hrules : rules.isEmpty = true)
    {c : ConstructorDef α} (hc : c ∈ e.constructors) {args : List ArgumentBinding} {ops : List Operation}
    (hnames : e.WellNamed) (hdistinct : Field.Distinct p.fields) (hargs : e.arguments? p.fields c = some args)
    (hops : List.Forall₂ (fun a op => Plan.argumentOperation? rules p e c a = some op) args ops) :
    ∃ positions arguments rest built,
      List.Forall₂ (fun a i => order[a.field]? = some i ∧ a.member = some i) args positions ∧
      List.Forall₂ e.Feeds c.params positions ∧
      RowRoutine.gather p.target ops values = .ok (arguments, rest) ∧
      (∀ j, j ∉ ops.map (·.source) → rest[j]? = values[j]?) ∧
      c.build ⟨arguments⟩ = .ok built ∧ I built ∧ ∀ i ∈ positions, RowRoutine.Agree e built object i := by
  obtain ⟨positions, hnodup, hparams, hbuild⟩ := h.derived.build c hc
  have hbound := h.columns.arguments_staged hnames hdistinct hargs hparams
  have hfits : List.Forall₂ (Fits types) positions (positions.map (e.valueAt object)) := by
    rw [List.forall₂_map_right_iff, List.forall₂_same]
    intro i hi
    obtain ⟨param, -, m, hm, -⟩ := exists_of_mem_forall₂ hparams.flip hi
    rw [EntityDef.valueAt_eq hm]
    exact h.derived.get h.holds hm
  obtain ⟨built, hbuilt, hI, hhas⟩ := hbuild _ hfits
  have hsources : (ops.map (·.source)).Nodup := by
    rw [← map_eq_of_forall₂ hops fun a op hop => (Plan.argumentOperation?_bound hop).1]
    exact Staged.nodup_fields (hbound.imp fun a i hai => hai.1) hnodup
  obtain ⟨rest, hgather, hkeep⟩ :=
    RowRoutine.gather_of_yields p.target (h.arguments_yield hrules hops hbound) hsources
  refine ⟨positions, _, rest, built, hbound.imp fun a i hai => ⟨hai.1, hai.2.1⟩, hparams, hgather, hkeep, hbuilt, hI, ?_⟩
  rw [List.forall₂_map_right_iff, List.forall₂_same] at hhas
  intro i hi m hm
  obtain ⟨n, hn, hvalue⟩ := hhas i hi
  obtain rfl : n = m := Option.some.inj (hn.symm.trans hm)
  rw [hvalue, EntityDef.valueAt_eq hm]

/-- **The plan of a staged row builds an object with the same members.** -/
theorem produce_staged (h : StagedObject e types I storage p.fields order object values) (hnames : e.WellNamed)
    (hrules : rules.isEmpty = true) {plan : Plan} (hplan : Plan.ofRow rules (.entity e) p = .ok plan) {n : Nat}
    {c : ConstructorDef α} (hn : plan.selected = some n) (hc : e.constructors[n]? = some c) : ∃ found rest,
      RowRoutine.produce plan (.entity c.name c.build (e.members.map (·.set))) values = .ok (found, rest) ∧
      ∀ m ∈ e.members, m.isWritable = true ∨ c.Takes m → m.get found = m.get object := by
  obtain ⟨n', c', args, hdistinct, -, hc', hargs, hfingerprint, hn', -, hleft, hright⟩ := Plan.ofRow_entity hplan
  obtain rfl : n = n' := Option.some.inj (hn.symm.trans hn')
  obtain rfl : c = c' := Option.some.inj (hc.symm.trans hc')
  obtain ⟨positions, arguments, rest, built, hbound, hparams, hgather, hkeep, hbuilt, hI, htaken⟩ :=
    h.build_staged hrules (List.mem_of_getElem? hc) hnames hdistinct hargs hleft
  obtain ⟨hunshared, hapart⟩ := Plan.assignments_unshared hplan
  have hrestores : ∀ op ∈ plan.assignments, RowRoutine.Restores e object rest op := by
    intro op hop
    refine (h.assignments_restore hnames hrules hright op hop).congr (hkeep _ fun hmem => ?_)
    exact hapart _ hmem _ (List.mem_map.2 ⟨op, hop, rfl⟩) rfl
  obtain ⟨found, rest', hfound, -, hassigned, hkept⟩ :=
    RowRoutine.foldlM_assign p.target h.derived h.holds plan.assignments hI hrestores hunshared
  refine ⟨found, rest', ?_, fun m hm hcase => ?_⟩
  · have hmade : (liftM (Result.inField p.target (c.name ++ "(..)") (c.build ⟨arguments⟩)) : RowReader α) rest =
        .ok (built, rest) := by
      rw [hbuilt]
      rfl
    unfold RowRoutine.produce
    rw [hfingerprint]
    exact (RowReader.bind_of_ok hgather).trans ((RowReader.bind_of_ok hmade).trans hfound)
  · obtain ⟨i, hi⟩ := List.getElem?_of_mem hm
    by_cases hpositions : i ∈ positions
    · exact hkept i (htaken i hpositions) m hi
    · rcases hcase with hwritable | ⟨param, hparam, hname⟩
      · obtain ⟨b, hb, hbi⟩ := h.columns.exists_assignment hnames hbound hi hwritable hpositions
        obtain ⟨op, hop, hbop⟩ := exists_of_mem_forall₂ hright hb
        exact hassigned op hop i (hbi ▸ (Plan.assignmentOperation?_bound hbop).2.symm) m hi
      · obtain ⟨j, hj, m', hm', hname', -⟩ := exists_of_mem_forall₂ hparams hparam
        have hji : some j = some i :=
          (EntityDef.memberNamed?_eq hnames hm' hname').symm.trans (EntityDef.memberNamed?_eq hnames hi hname)
        exact absurd (Option.some.inj hji ▸ hj) hpositions

end StagedObject

/-- **A routine reads the staged row of an object into an object with the same members**: those that its constructor
takes and those that can be set. -/
theorem RowRoutine.call_staged {schema : Schema α} {rules : Rules α} {e : EntityDef α} {types : List NativeType}
    {I : α → Prop} {storage : StorageType} {target : TypeName} {fields : List Field} {order : List Nat}
    {r : RowRoutine α} (hschema : schema target = .entity e) (hnames : e.WellNamed) (hrules : rules.isEmpty = true)
    (hr : RowRoutine.compile schema rules (.rowToObject target fields) = .ok r) :
    ∃ c, r.plan.selected.bind (e.constructors[·]?) = some c ∧ ∀ {object : α} {values : List Value},
      StagedObject e types I storage fields order object values → ∃ found, r.call ⟨fields, values⟩ = .ok found ∧
        ∀ m ∈ e.members, m.isWritable = true ∨ c.Takes m → m.get found = m.get object := by
  obtain ⟨plan, hplan, hr⟩ := Result.bind_eq_ok_iff.1 hr
  obtain ⟨body, hbody, hr⟩ := Result.bind_eq_ok_iff.1 hr
  dsimp only [Fingerprint.rowToObject] at hplan hbody hr
  rw [hschema] at hplan hbody
  rw [Rules.objectHook?_of_isEmpty hrules] at hr
  obtain rfl := Except.ok.inj hr
  obtain ⟨n, c, -, -, -, hc, -, hfingerprint, hn, -⟩ := Plan.ofRow_entity hplan
  have hselected : plan.selected.bind (e.constructors[·]?) = some c := by rw [hn, Option.bind_some, hc]
  obtain rfl : RowBody.entity c.name c.build (e.members.map (·.set)) = body := by
    rw [bodyOf, hselected] at hbody
    exact Except.ok.inj hbody
  refine ⟨c, hselected, fun {object values} h => ?_⟩
  obtain ⟨found, rest, hfound, hsame⟩ := h.produce_staged hnames hrules hplan hn hc
  have hlength : values.length = plan.fingerprint.fields.length := by
    rw [hfingerprint]
    exact h.row.length.trans h.columns.length.symm
  refine ⟨found, ?_, hsame⟩
  refine (call_eq _ _).trans ((if_pos hlength).trans ?_)
  dsimp only
  rw [hfound]
  rfl

end RowBinding
