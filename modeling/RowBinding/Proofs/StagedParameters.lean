import RowBinding.Proofs.BoundParameters
/-!
# Staged parameters

A table stages many objects by one routine.  **Its rows are the parameters that binding appends for each object, and
its columns are named after them** (`BulkTable.ofEntities_binds`): staging fails where compiling does, or else with the
failure of the first object that cannot be bound.
-/
namespace RowBinding

variable {α : Type}

/-! ## Columns -/

/-- The column has the flags of the store field of its name, or those of a column that no store field is found for. -/
def Field.Flagged (store : List Field) (f : Field) : Prop :=
  match store.find? (·.isNamed f.name) with
  | some s => f.nullable = s.nullable ∧ f.isPrimary = s.isPrimary ∧ f.isIdentity = s.isIdentity
  | none => f.nullable = true ∧ f.isPrimary = false ∧ f.isIdentity = false

namespace BulkTable

variable {store : List Field} {plan : Plan}

theorem columnFor_named (store : List Field) (op : Operation) : (columnFor store op).name = op.name ∧
    (columnFor store op).type = op.type ∧ (columnFor store op).aliasName = none := by
  unfold columnFor
  cases store.find? (·.isNamed op.name) <;> exact ⟨rfl, rfl, rfl⟩

/-- A column stands where its parameter does, and has the flags of the store field. -/
theorem columns_arranged {k : Nat} {f : Field} (hf : (columns store plan)[k]? = some f) :
    f.ordinal = k ∧ f.aliasName = none ∧ f.Flagged store := by
  rw [columns, Field.arranged, List.getElem?_map, List.getElem?_zipIdx, List.getElem?_map] at hf
  cases hop : plan.operations[k]? with
  | none =>
    rw [hop] at hf
    cases hf
  | some op =>
    rw [hop] at hf
    obtain rfl := Option.some.inj hf
    obtain ⟨hname, -, halias⟩ := columnFor_named store op
    refine ⟨Nat.zero_add k, halias, ?_⟩
    unfold Field.Flagged
    dsimp only
    rw [hname]
    unfold columnFor
    cases store.find? (·.isNamed op.name) <;> exact ⟨rfl, rfl, rfl⟩

theorem columns_forall₂ : List.Forall₂ (fun op (f : Field) => f.name = op.name ∧ f.type = op.type) plan.operations
    (columns store plan) := by
  refine forall₂_of_getElem? ?_ fun k op f hop hf => ?_
  · rw [columns, Field.arranged, List.length_map, List.length_zipIdx, List.length_map]
  · rw [columns, Field.arranged, List.getElem?_map, List.getElem?_zipIdx, List.getElem?_map, hop] at hf
    obtain rfl := Option.some.inj hf
    obtain ⟨hname, htype, -⟩ := columnFor_named store op
    exact ⟨hname, htype⟩

/-- The columns of an entity are those of its members, in store order. -/
theorem columns_members {schema : Schema α} {rules : Rules α} {target : TypeName} {r : ParameterRoutine α}
    (hr : ParameterRoutine.compile schema rules (.objectToParameters target target store) = .ok r) :
    ∃ e order, schema target = .entity e ∧ e.StoreOrder store order ∧
      List.Forall₂ (fun i (f : Field) => ∃ m, e.members[i]? = some m ∧ f.name = m.fieldName ∧
        f.type = (rules.outward target store m).type) order (columns store r.plan) := by
  obtain ⟨e, hd, -, -⟩ := ParameterRoutine.exists_compile_iff.1 ⟨r, hr⟩
  obtain ⟨-, -, order, horder, hops⟩ := ParameterRoutine.compile_outward hr hd
  refine ⟨e, order, hd, horder, forall₂_comp (fun i op f hop hf => ?_) hops columns_forall₂⟩
  obtain ⟨m, hm, rfl⟩ := hop
  exact ⟨m, hm, hf⟩

/-- The parameters of every object are named like the columns. -/
theorem columns_names {schema : Schema α} {rules : Rules α} {target : TypeName} {r : ParameterRoutine α} {object : α}
    {added : List Parameter} (hr : ParameterRoutine.compile schema rules (.objectToParameters target target store) = .ok r)
    (hadded : rules.parametersFor schema target object store = .ok added) :
    (columns store r.plan).map (·.name) = added.map (·.name) := by
  obtain ⟨e, order, hd, horder, hcolumns⟩ := columns_members hr
  obtain ⟨e', order', hd', horder', hsent⟩ := Rules.parametersFor_sent hadded
  obtain rfl := TypeDef.entity.inj (hd.symm.trans hd')
  obtain rfl := horder.unique horder'
  refine map_eq_of_forall₂ (forall₂_comp (fun f i q hf hq => ?_) hcolumns.flip hsent) fun _ _ h => h
  obtain ⟨m, hm, hname, -⟩ := hf
  obtain ⟨m', v, hm', -, rfl⟩ := hq
  obtain rfl := Option.some.inj (hm.symm.trans hm')
  exact hname

/-! ## Rows -/

/-- The row of an object has the values of its parameters. -/
theorem rowOf_eq {schema : Schema α} {rules : Rules α} {target : TypeName} {r : ParameterRoutine α}
    (hr : ParameterRoutine.compile schema rules (.objectToParameters target target store) = .ok r) (object : α) :
    rowOf r object = (rules.parametersFor schema target object store).map fun added => added.map (·.value) := by
  rw [rowOf, Rules.parametersFor, hr]
  rfl

end BulkTable

namespace Rules

variable {schema : Schema α} {rules : Rules α} {target : TypeName} {objects : List α} {store : List Field}

/-- A table holds the parameters of each object. -/
theorem tableOf_eq {r : ParameterRoutine α}
    (hr : ParameterRoutine.compile schema rules (.objectToParameters target target store) = .ok r) :
    rules.tableOf schema target objects store =
      (objects.mapM fun object => (rules.parametersFor schema target object store).map fun added =>
        added.map (·.value)).map (⟨BulkTable.columns store r.plan, ·⟩) := by
  rw [tableOf, hr, ← funext (BulkTable.rowOf_eq hr)]
  show (objects.mapM (BulkTable.rowOf r) >>= _) = _
  cases objects.mapM (BulkTable.rowOf r) <;> rfl

/-- **A table of objects**: the columns of the routine, and a row of parameters for each object. -/
theorem tableOf_ok {table : BulkTable} (h : rules.tableOf schema target objects store = .ok table) :
    ∃ r, ParameterRoutine.compile schema rules (.objectToParameters target target store) = .ok r ∧
      table.fields = BulkTable.columns store r.plan ∧
      List.Forall₂ (fun object row => ∃ added, rules.parametersFor schema target object store = .ok added ∧
        row = added.map (·.value) ∧ table.fields.map (·.name) = added.map (·.name)) objects table.rows := by
  obtain ⟨r, hr, -⟩ := Result.bind_eq_ok_iff.1 h
  rw [tableOf_eq hr] at h
  obtain ⟨rows, hrows, rfl⟩ := Result.map_eq_ok_iff.1 h
  refine ⟨r, hr, rfl, (Result.mapM_eq_ok_iff.1 hrows).imp fun object row hrow => ?_⟩
  obtain ⟨added, hadded, rfl⟩ := Result.map_eq_ok_iff.1 hrow
  exact ⟨added, hadded, rfl, BulkTable.columns_names hr hadded⟩

/-- **Staging fails as compiling does, or as the first object that has no parameters.** -/
theorem tableOf_error {e : Failure} (h : rules.tableOf schema target objects store = .error e) :
    ParameterRoutine.compile schema rules (.objectToParameters target target store) = .error e ∨
      (∃ r, ParameterRoutine.compile schema rules (.objectToParameters target target store) = .ok r) ∧
        ∃ before object after, objects = before ++ object :: after ∧
          rules.parametersFor schema target object store = .error e ∧
          ∀ earlier ∈ before, ∃ added, rules.parametersFor schema target earlier store = .ok added := by
  cases hr : ParameterRoutine.compile schema rules (.objectToParameters target target store) with
  | error e' =>
    rw [tableOf, hr] at h
    cases h
    exact .inl rfl
  | ok r =>
    rw [tableOf_eq hr] at h
    obtain ⟨before, object, after, rfl, hobject, hbefore⟩ := Result.mapM_eq_error (Result.map_eq_error_iff.1 h)
    refine .inr ⟨⟨r, rfl⟩, before, object, after, rfl, Result.map_eq_error_iff.1 hobject, fun earlier hearlier => ?_⟩
    obtain ⟨row, hrow⟩ := hbefore earlier hearlier
    obtain ⟨added, hadded, -⟩ := Result.map_eq_ok_iff.1 hrow
    exact ⟨added, hadded⟩

theorem exists_tableOf_iff : (∃ table, rules.tableOf schema target objects store = .ok table) ↔
    (∃ r, ParameterRoutine.compile schema rules (.objectToParameters target target store) = .ok r) ∧
      ∀ object ∈ objects, ∃ added, rules.parametersFor schema target object store = .ok added := by
  constructor
  · rintro ⟨table, h⟩
    obtain ⟨r, hr, -, hrows⟩ := tableOf_ok h
    refine ⟨⟨r, hr⟩, fun object hobject => ?_⟩
    obtain ⟨row, -, added, hadded, -⟩ := exists_of_mem_forall₂ hrows hobject
    exact ⟨added, hadded⟩
  · rintro ⟨⟨r, hr⟩, hall⟩
    have hrows : ∀ object ∈ objects, ∃ row, (rules.parametersFor schema target object store).map
        (fun added => added.map (·.value)) = .ok row := by
      intro object hobject
      obtain ⟨added, hadded⟩ := hall object hobject
      exact ⟨_, Result.map_eq_ok_iff.2 ⟨added, hadded, rfl⟩⟩
    obtain ⟨rows, hrows⟩ := Result.exists_mapM_iff.2 hrows
    rw [tableOf_eq hr, hrows]
    exact ⟨_, rfl⟩

end Rules

/-- A request for a parameter routine fails where compiling does, and in the same way. -/
theorem Mapper.compileParameters_iff {schema : Schema α} {rules : Rules α} {j : Journaled (Mapper α)}
    (target source : TypeName) (fields : List Field) (hj : Under schema rules j.state) :
    (∀ e, ((compileParameters target source fields).perform j).1 = .error e ↔
        ParameterRoutine.compile schema rules (.objectToParameters target source fields) = .error e) ∧
      ((∃ s, ((compileParameters target source fields).perform j).1 = .ok s) ↔
        ∃ r, ParameterRoutine.compile schema rules (.objectToParameters target source fields) = .ok r) := by
  obtain ⟨-, ⟨e, hcompile, hrequest⟩ | ⟨r, s, hcompile, hrequest, -⟩⟩ :=
    perform_compileParameters target source fields hj
  · rw [hcompile, hrequest]
    exact ⟨fun _ => ⟨fun h => congrArg _ (Except.error.inj h), fun h => congrArg _ (Except.error.inj h)⟩,
      fun ⟨_, h⟩ => (by cases h), fun ⟨_, h⟩ => (by cases h)⟩
  · rw [hcompile, hrequest]
    exact ⟨fun _ => ⟨fun h => (by cases h), fun h => (by cases h)⟩, fun _ => ⟨r, rfl⟩, fun _ => ⟨s, rfl⟩⟩

namespace BulkTable

/-- **A table is what binding appends, object by object.**  For every mapper that requests have led to, every store
fields, command and list of objects: staging succeeds exactly when the routine compiles and every object can be bound to
the command.  Each row then has the values of the parameters that binding appends for its object, and the columns have
their names, their positions as ordinals, and the flags of the store fields of those names.  Where staging fails, it
fails as compiling does or as binding the first object that cannot be bound does.  Binding does not depend on which
routines the mapper holds. -/
theorem ofEntities_binds (schema : Schema α) (settings : Settings) (log : List LogRecord) (requests : List (Request α))
    (command : Command) (target : TypeName) (objects : List α) (store : List Field) :
    let used := (Mapper.serveAll requests ⟨Mapper.ofSettings schema settings, log⟩).2
    let compiled := ((Mapper.compileParameters target target store).perform used).1
    let bound := fun object => ((Mapper.bindToFields command target object store).perform used).1
    let staged := ((ofEntities target objects store).perform used).1
    ((∃ table, staged = .ok table) ↔ (∃ r, compiled = .ok r) ∧ ∀ object ∈ objects, ∃ after, bound object = .ok after) ∧
    (match staged with
      | .error e => compiled = .error e ∨ (∃ r, compiled = .ok r) ∧ ∃ before object after,
        objects = before ++ object :: after ∧ bound object = .error e ∧
        ∀ earlier ∈ before, ∃ after, bound earlier = .ok after
      | .ok table =>
        List.Forall₂ (fun object row => ∃ added, bound object = .ok (command.append added) ∧ row = added.map (·.value) ∧
          table.fields.map (·.name) = added.map (·.name)) objects table.rows ∧
        (∀ (k : Nat) f, table.fields[k]? = some f → f.ordinal = k ∧ f.aliasName = none ∧ f.Flagged store) ∧
        ∃ e order, schema target = .entity e ∧ e.StoreOrder store order ∧
          List.Forall₂ (fun i (f : Field) => ∃ m, e.members[i]? = some m ∧ f.name = m.fieldName ∧
            f.type = (used.state.rules.outward target store m).type) order table.fields) ∧
    ∀ object k, Mapper.Under schema used.state.rules k.state →
      ((Mapper.bindToFields command target object store).perform k).1 = bound object := by
  intro used compiled bound staged
  have hunder : Mapper.Under schema used.state.rules used.state := Mapper.under_serveAll schema settings log requests
  have hstaged : staged = used.state.rules.tableOf schema target objects store :=
    (Mapper.perform_ofEntities target objects store hunder).2
  obtain ⟨hfails, hcompiles⟩ := Mapper.compileParameters_iff target target store hunder
  have hany : ∀ object k, Mapper.Under schema used.state.rules k.state →
      ((Mapper.bindToFields command target object store).perform k).1 =
        (used.state.rules.parametersFor schema target object store).map command.append := fun object k hk =>
    (Mapper.perform_bindToFields command target object store hk).2.trans (Rules.bindToFields_eq ..)
  have hbound : ∀ object, bound object =
      (used.state.rules.parametersFor schema target object store).map command.append := fun object => hany object used hunder
  have hbinds : ∀ object, (∃ after, bound object = .ok after) ↔
      ∃ added, used.state.rules.parametersFor schema target object store = .ok added := by
    intro object
    rw [hbound]
    constructor
    · rintro ⟨after, h⟩
      obtain ⟨added, hadded, -⟩ := Result.map_eq_ok_iff.1 h
      exact ⟨added, hadded⟩
    · rintro ⟨added, hadded⟩
      exact ⟨_, Result.map_eq_ok_iff.2 ⟨added, hadded, rfl⟩⟩
  refine ⟨?_, ?_, fun object k hk => (hany object k hk).trans (hbound object).symm⟩
  · rw [hstaged, Rules.exists_tableOf_iff, ← hcompiles]
    simp only [hbinds, compiled]
  · rw [hstaged]
    cases h : used.state.rules.tableOf schema target objects store with
    | error e =>
      refine (Rules.tableOf_error h).imp (hfails e).2 ?_
      rintro ⟨hr, before, object, after, hobjects, hobject, hbefore⟩
      refine ⟨hcompiles.2 hr, before, object, after, hobjects, ?_, fun earlier hearlier => ?_⟩
      · rw [hbound, hobject]
        rfl
      · exact (hbinds earlier).2 (hbefore earlier hearlier)
    | ok table =>
      obtain ⟨r, hr, hfields, hrows⟩ := Rules.tableOf_ok h
      refine ⟨?_, ?_, ?_⟩
      · refine hrows.imp fun object row ⟨added, hadded, hrow⟩ => ⟨added, ?_, hrow⟩
        rw [hbound, hadded]
        rfl
      · rw [hfields]
        exact fun k f => columns_arranged
      · rw [hfields]
        exact columns_members hr

end BulkTable

end RowBinding
