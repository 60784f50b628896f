import RowBinding.Proofs.CacheTransparency
import RowBinding.Proofs.StagedRows
import RowBinding.Sample.Orders
/-!
# Objects through a bulk table

Objects are staged under the names of their members in the store, and the rows of the table are read under the same
names.  **Where no rule interferes, every member that the constructor takes or that can be set comes back as it was**
(`Mapper.readAll_ofEntities`), in whatever order the columns stand and whatever the mapper has done before.
-/
namespace RowBinding

variable {α : Type}

/-- What is read has the members of the object, those that the constructor takes and those that can be set. -/
def EntityDef.ReadBack (e : EntityDef α) (c : ConstructorDef α) (object : α) (result : Result α) : Prop :=
  ∃ found, result = .ok found ∧ ∀ m ∈ e.members, m.isWritable = true ∨ c.Takes m → m.get found = m.get object

theorem EntityDef.ReadBack.congr {e : EntityDef α} {c : ConstructorDef α} {object : α} {r s : Result α}
    (h : e.ReadBack c object r) (hrs : Result.Alike Eq r s) : e.ReadBack c object s := by
  obtain ⟨found, rfl, hsame⟩ := h
  obtain ⟨b, rfl, rfl⟩ := hrs.exists_of_ok
  exact ⟨found, rfl, hsame⟩

/-- The rules alone read staged rows back. -/
theorem Rules.readAll_tableOf {schema : Schema α} {rules : Rules α} {target : TypeName} {e : EntityDef α}
    {types : List NativeType} {I : α → Prop} (hschema : schema target = .entity e) (he : e.Derived types I)
    (hnames : e.WellNamed) (hlegible : ∀ t ∈ types, t.Legible) (hrules : rules.isEmpty = true)
    (hstorage : rules.settings.enumStorage.keepsVariants = true) {objects : List α} (hobjects : ∀ a ∈ objects, I a)
    {store : List Field} (hmode : rules.settings.mode = .plain ∨ store = []) {table : BulkTable}
    (htable : rules.tableOf schema target objects store = .ok table) {r : RowRoutine α}
    (hr : RowRoutine.compile schema rules (.rowToObject target table.fields) = .ok r) :
    ∃ c results, r.plan.selected.bind (e.constructors[·]?) = some c ∧
      rules.readAll schema target table.toRows = .ok results ∧ List.Forall₂ (e.ReadBack c) objects results := by
  obtain ⟨order, hstaged, hrows⟩ := tableOf_staged hschema hrules hmode htable
  obtain ⟨c, hc, hcall⟩ := RowRoutine.call_staged hschema hnames hrules hr
  have hread : List.Forall₂ (fun object row => ∃ result,
      (rules.read schema target row).attempted = .ok result ∧ e.ReadBack c object result) objects table.toRows := by
    rw [BulkTable.toRows, List.forall₂_map_right_iff]
    refine ((List.forall₂_and_left _ _).2 ⟨hobjects, hrows⟩).imp fun object values ⟨hI, hvalues⟩ => ?_
    obtain ⟨found, hfound, hsame⟩ := hcall ⟨he, hlegible, hstorage, hstaged, hvalues, hI⟩
    have hread : rules.read schema target ⟨table.fields, values⟩ = .ok found := by
      rw [Rules.read, hr]
      exact hfound
    exact ⟨.ok found, by rw [hread]; rfl, found, rfl, hsame⟩
  obtain ⟨results, hresults, hback⟩ := Result.mapM_of_forall₂ hread
  exact ⟨c, results, hc, hresults, hback⟩

namespace Mapper

/-- **Objects come back from a bulk table.**  The mapper may have served any requests before; it has no rules, and its
storage type keeps variants apart.  If the objects can be staged and the shape of the table compiles, every row is read,
in order, and what is read has the members of its object: those that the selected constructor takes and those that can
be set. -/
theorem readAll_ofEntities {schema : Schema α} {target : TypeName} {e : EntityDef α} {types : List NativeType}
    {I : α → Prop} (hschema : schema target = .entity e) (he : e.Derived types I) (hnames : e.WellNamed)
    (hlegible : ∀ t ∈ types, t.Legible) (s : Settings) (log : List LogRecord) (requests : List (Request α))
    {j staged : Journaled (Mapper α)} (hj : (serveAll requests ⟨ofSettings schema s, log⟩).2 = j)
    (hrules : j.state.rules.isEmpty = true) (hstorage : j.state.rules.settings.enumStorage.keepsVariants = true)
    {objects : List α} (hobjects : ∀ a ∈ objects, I a) {store : List Field}
    (hmode : j.state.rules.settings.mode = .plain ∨ store = []) {table : BulkTable}
    (htable : (BulkTable.ofEntities target objects store).perform j = (.ok table, staged)) {r : RowRoutine α}
    (hr : RowRoutine.compile schema j.state.rules (.rowToObject target table.fields) = .ok r) :
    ∃ c results, r.plan.selected.bind (e.constructors[·]?) = some c ∧
      ((readAll target table.toRows).perform staged).1 = .ok results ∧ List.Forall₂ (e.ReadBack c) objects results := by
  obtain ⟨-, hunder⟩ := serveAll_under (j := ⟨ofSettings schema s, log⟩) requests (under_ofSettings schema s)
  rw [hj] at hunder
  rw [hunder.rules_eq] at hrules hstorage hmode hr
  obtain ⟨hunder', htable'⟩ := ofEntities_mirrors target objects store j hunder
  rw [htable] at hunder' htable'
  obtain ⟨c, results, hc, hresults, hback⟩ := Rules.readAll_tableOf hschema he hnames hlegible hrules hstorage hobjects
    hmode htable'.eq_of_ok hr
  obtain ⟨-, hread⟩ := readAll_mirrors target table.toRows staged hunder'
  rw [hresults] at hread
  obtain ⟨results', hresults', halike⟩ := hread.exists_of_ok
  exact ⟨c, results', hc, hresults', forall₂_comp (fun _ _ _ h hrs => h.congr hrs) hback halike⟩

end Mapper

/-! ## The sample orders -/

namespace Sample

/-- The entity of the sample orders among the sample types. -/
def orderEntity : EntityDef Object := (withDefault order).embed .record Object.record?

/-- The columns in which orders are staged. -/
def orderColumns : List Field :=
  Field.arranged
    [.column "id" (.integer .int64), .column "customer_id" (.integer .int64), .column "status" .varchar,
      .column "quantity" (.integer .int32), .column "total" .decimal, .column "placed_at" .timestamp]

theorem order_proper : order.Proper (some order.startRecord) noFunctions where
  names := by decide
  params := fun c hc => by cases hc
  start := by
    rintro _ ⟨⟩
    decide
  functions := fun c hc => by cases hc

theorem order_legible : ∀ t ∈ order.kept.map (·.type), t.Legible := by
  intro t ht e he
  have htypes : order.kept.map (·.type) =
      [int64, int64, .base orderStatusType, int32, decimal, .option (.base .timestamp)] := rfl
  simp only [htypes, List.mem_cons, List.not_mem_nil, or_false] at ht
  rcases ht with rfl | rfl | rfl | rfl | rfl | rfl <;> cases he
  exact ⟨by decide, by decide⟩

theorem fields_sampleOrders :
    ((Rules.ofSettings {}).tableOf (schemaOf types) orderName (sampleOrders.map Object.record) []).map (·.fields) =
      .ok orderColumns := by
  have hplan : Plan.ofParameters (.ofSettings {}) (schemaOf types orderName) (schemaOf types orderName)
      (.objectToParameters orderName orderName []) = .ok ⟨.objectToParameters orderName orderName [], .memberInit, none,
        (orderEntity.members.zipIdx.map fun mi => mi.1.parameterBinding mi.2 none []).filterMap
          (Plan.outboundOperation? (.ofSettings {}) (.objectToParameters orderName orderName []) orderEntity
            (.entity orderEntity))⟩ := by
    show Plan.ofParameters _ (.entity orderEntity) (.entity orderEntity) _ = _
    rw [Plan.ofParameters, Plan.analyzeParameters_declared rfl rfl]
    rfl
  rw [Rules.tableOf, ParameterRoutine.compile]
  dsimp only [Fingerprint.objectToParameters, Option.getD_some] at hplan ⊢
  rw [hplan]
  decide

theorem compile_orderColumns :
    (RowRoutine.compile (schemaOf types) (.ofSettings {}) (.rowToObject orderName orderColumns)).map (·.plan.selected) =
      .ok (some 0) := by
  decide

theorem sampleOrders_readBack : ∃ c table staged results,
    (BulkTable.ofEntities orderName (sampleOrders.map Object.record) []).perform
        ⟨.ofSettings (schemaOf types) {}, []⟩ = (.ok table, staged) ∧
      ((Mapper.readAll orderName table.toRows).perform staged).1 = .ok results ∧
      List.Forall₂ (orderEntity.ReadBack c) (sampleOrders.map Object.record) results := by
  obtain ⟨table, htable, hfields⟩ := Result.map_eq_ok_iff.1 fields_sampleOrders
  obtain ⟨r, hr, -⟩ := Result.map_eq_ok_iff.1 compile_orderColumns
  rw [← hfields] at hr
  obtain ⟨-, hstaged⟩ := Mapper.ofEntities_mirrors orderName (sampleOrders.map Object.record) []
    ⟨.ofSettings (schemaOf types) {}, []⟩ (Mapper.under_ofSettings (schemaOf types) {})
  rw [htable] at hstaged
  obtain ⟨_, hstaged, rfl⟩ := hstaged.exists_of_ok
  have hobjects : ∀ a ∈ sampleOrders.map Object.record, ∃ o, a = Object.record o ∧ order.Holds o := by
    intro a ha
    obtain ⟨o, ho, rfl⟩ := List.mem_map.1 ha
    exact ⟨o, rfl, (by decide : ∀ o ∈ sampleOrders, order.Holds o) o ho⟩
  obtain ⟨c, results, -, hread, hback⟩ := Mapper.readAll_ofEntities (e := orderEntity) rfl
    ((StructDecl.derived order_proper).embed fun _ => rfl) ⟨by decide, by decide⟩ order_legible {} [] [] rfl rfl rfl hobjects
    (.inl rfl) (Prod.ext hstaged rfl) hr
  exact ⟨c, table, _, results, Prod.ext hstaged rfl, hread, hback⟩

end Sample

end RowBinding
