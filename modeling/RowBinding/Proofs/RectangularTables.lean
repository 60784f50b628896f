import RowBinding.Proofs.ConversionLaws
import RowBinding.Proofs.StagedParameters
import RowBinding.Sample.Orders
import RowBinding.Session
/-!
# Rows of one length

A table is made without rows, from objects or from keys, and rows are pushed to it one by one, of which some are
refused.  **However it was made and whatever was pushed, every row has as many values as there are fields, and the rows
are those that were made and those that were accepted, in this order** (`BulkTable.built_rectangular`).  A table of keys
has a single column, the key of the store, and there is one exactly if the store has a key and every key has its type.
-/
namespace RowBinding

variable {α : Type}

/-! ## Keys of a store -/

namespace Field

/-- The first of the fields that has a flag. -/
def IsFirst (flag : Field → Bool) (fields : List Field) (f : Field) : Prop :=
  flag f = true ∧ ∃ before after, fields = before ++ f :: after ∧ ∀ g ∈ before, flag g = false

/-- The key of a store: its first primary field, or its first identity field when none is primary. -/
def IsKey (store : List Field) (f : Field) : Prop :=
  IsFirst Field.isPrimary store f ∨ (∀ g ∈ store, g.isPrimary = false) ∧ IsFirst Field.isIdentity store f

variable {flag : Field → Bool} {store : List Field} {f : Field}

theorem find?_eq_some_iff_isFirst : store.find? flag = some f ↔ IsFirst flag store f := by
  rw [List.find?_eq_some_iff_append]
  simp only [Bool.not_eq_true']
  rfl

theorem key?_eq_some_iff : key? store = some f ↔ IsKey store f := by
  unfold key? IsKey
  rw [Option.or_eq_some_iff, find?_eq_some_iff_isFirst, find?_eq_some_iff_isFirst, List.find?_eq_none]
  simp only [Bool.not_eq_true]

theorem exists_isKey_iff : (∃ f, IsKey store f) ↔ ∃ f ∈ store, f.isPrimary = true ∨ f.isIdentity = true := by
  have hkey : (∃ f, IsKey store f) ↔ (key? store).isSome = true := by
    simp only [← key?_eq_some_iff, Option.isSome_iff_exists]
  rw [hkey, key?, Option.isSome_or, Bool.or_eq_true, List.find?_isSome, List.find?_isSome]
  simp only [← exists_or, ← and_or_left]

end Field

/-! ## Tables as they are made -/

namespace BulkTable

variable {schema : Schema α} {t : BulkTable} {row : List Value} {store : List Field} {keys : List Value} {f : Field}

/-- Every row has as many values as there are fields. -/
def Rectangular (t : BulkTable) : Prop := ∀ row ∈ t.rows, row.length = t.fields.length

/-- The tables as they are made: without rows, from objects by a mapper that any requests led to, or from keys. -/
inductive Built (schema : Schema α) : BulkTable → Prop
  | new (fields : List Field) : Built schema (empty fields)
  | fromObjects (settings : Settings) (log : List LogRecord) (requests : List (Request α)) {target : TypeName}
      {objects : List α} {store : List Field} {t : BulkTable}
      (h : ((ofEntities target objects store).perform
        (Mapper.serveAll requests ⟨Mapper.ofSettings schema settings, log⟩).2).1 = .ok t) : Built schema t
  | fromKeys {store : List Field} {keys : List Value} {t : BulkTable} (h : singleColumn store keys = .ok t) :
    Built schema t

theorem push_of_length (h : row.length = t.fields.length) : t.push row = .ok { t with rows := t.rows ++ [row] } :=
  if_pos h

theorem push_of_length_ne (h : row.length ≠ t.fields.length) : t.push row =
    .error (.shapeMismatch "bulk table" (Numeral.text row.length ++ " values") (.tableSize t.fields.length)) :=
  if_neg h

/-- Keys become rows of their own as they are converted; the first that cannot be converted ends it. -/
theorem foldlM_keys {type : ValueType} (ht : t.fields.length = 1) :
    keys.foldlM (fun t v => do t.push [← v.convert type]) t =
      (keys.mapM fun (v : Value) => v.convert type : Result (List Value)).map fun cells =>
        { t with rows := t.rows ++ cells.map ([·]) } := by
  -- The rows of earlier keys are part of the table that the later ones are pushed to.
  induction keys generalizing t with
  | nil =>
    show Except.ok t = .ok { t with rows := t.rows ++ [] }
    rw [List.append_nil]
  | cons v keys ih =>
    rw [List.foldlM_cons, List.mapM_cons]
    cases v.convert type with
    | error e => rfl
    | ok w =>
      have hpush : t.push [w] = .ok { t with rows := t.rows ++ [[w]] } := push_of_length ht.symm
      show (t.push [w] >>= fun t => keys.foldlM _ t) = _
      rw [hpush]
      refine (ih (t := { t with rows := t.rows ++ [[w]] }) ht).trans ?_
      show _ = (keys.mapM (fun (v : Value) => v.convert type) >>= fun cells => Except.ok (w :: cells)).map _
      cases keys.mapM (fun (v : Value) => v.convert type) with
      | error e => rfl
      | ok cells =>
        show Except.ok (BulkTable.mk t.fields (t.rows ++ [[w]] ++ cells.map ([·]))) =
          .ok ⟨t.fields, t.rows ++ [w] :: cells.map ([·])⟩
        rw [← List.append_cons]

theorem singleColumn_of_isKey (h : Field.IsKey store f) : singleColumn store keys =
    (keys.mapM fun (v : Value) => v.convert f.type : Result (List Value)).map fun cells =>
      ⟨[{ f with ordinal := 0 }], cells.map ([·])⟩ := by
  rw [singleColumn, Field.key?_eq_some_iff.2 h]
  exact foldlM_keys rfl

theorem exists_isKey_of_singleColumn (h : singleColumn store keys = .ok t) : ∃ f, Field.IsKey store f := by
  cases hkey : Field.key? store with
  | none =>
    rw [singleColumn, hkey] at h
    cases h
  | some f => exact ⟨f, Field.key?_eq_some_iff.1 hkey⟩

/-- **A table of keys exists exactly if the store has a key and every key has its type.** -/
theorem exists_singleColumn_iff : (∃ t, singleColumn store keys = .ok t) ↔
    ∃ f, Field.IsKey store f ∧ ∀ v ∈ keys, ∃ w, v.convert f.type = .ok w := by
  constructor
  · rintro ⟨t, h⟩
    obtain ⟨f, hf⟩ := exists_isKey_of_singleColumn h
    rw [singleColumn_of_isKey hf] at h
    obtain ⟨cells, hcells, -⟩ := Result.map_eq_ok_iff.1 h
    exact ⟨f, hf, Result.exists_mapM_iff.1 ⟨cells, hcells⟩⟩
  · rintro ⟨f, hf, hkeys⟩
    obtain ⟨cells, hcells⟩ := Result.exists_mapM_iff.2 hkeys
    rw [singleColumn_of_isKey hf, hcells]
    exact ⟨_, rfl⟩

/-- **A table of keys has one column, the key of the store, and the converted keys in it.** -/
theorem singleColumn_ok (h : singleColumn store keys = .ok t) : ∃ f cells, Field.IsKey store f ∧
    t = ⟨[{ f with ordinal := 0 }], cells.map ([·])⟩ ∧
    List.Forall₂ (fun (v : Value) w => v.convert f.type = .ok w ∧ w.type? = some f.type) keys cells := by
  obtain ⟨f, hf⟩ := exists_isKey_of_singleColumn h
  rw [singleColumn_of_isKey hf] at h
  obtain ⟨cells, hcells, rfl⟩ := Result.map_eq_ok_iff.1 h
  exact ⟨f, cells, hf, rfl, (Result.mapM_eq_ok_iff.1 hcells).imp fun v w hw => ⟨hw, Value.convert_type? hw⟩⟩

/-- **A table of objects has a row of parameters for each object**, in order, and each row has the length of the
fields although none is counted. -/
theorem rows_ofEntities {settings : Settings} {log : List LogRecord} {requests : List (Request α)} {target : TypeName}
    {objects : List α} {used : Journaled (Mapper α)}
    (hused : (Mapper.serveAll requests ⟨Mapper.ofSettings schema settings, log⟩).2 = used)
    (h : ((ofEntities target objects store).perform used).1 = .ok t) :
    List.Forall₂ (fun object row => row.length = t.fields.length ∧ ∃ added,
      used.state.rules.parametersFor schema target object store = .ok added ∧ row = added.map (·.value))
      objects t.rows := by
  subst hused
  rw [(Mapper.perform_ofEntities _ _ _ (Mapper.under_serveAll schema settings log requests)).2] at h
  obtain ⟨-, -, -, hrows⟩ := Rules.tableOf_ok h
  refine hrows.imp fun object row hrow => ?_
  obtain ⟨added, hadded, rfl, hnames⟩ := hrow
  refine ⟨?_, added, hadded, rfl⟩
  have hlength := congrArg List.length hnames
  rw [List.length_map, List.length_map] at hlength
  rw [List.length_map, hlength]

/-- **A table is rectangular when it is made.** -/
theorem Built.rectangular (h : Built schema t) : t.Rectangular := by
  cases h with
  | new fields => exact fun row hrow => by cases hrow
  | fromObjects settings log requests h =>
    intro row hrow
    -- No row of an object is counted when it is appended; it has a value for each operation of the routine.
    obtain ⟨object, -, hlength, -⟩ := exists_of_mem_forall₂ (rows_ofEntities rfl h).flip hrow
    exact hlength
  | fromKeys h =>
    obtain ⟨f, cells, -, rfl, -⟩ := singleColumn_ok h
    intro row hrow
    obtain ⟨w, -, rfl⟩ := List.mem_map.1 hrow
    rfl

end BulkTable

/-! ## Pushing rows -/

namespace Session

variable {name : String} {t : BulkTable} {j : Journaled (Session α)}

theorem perform_keepTable (name : String) (t : BulkTable) (j : Journaled (Session α)) :
    (keepTable name t).perform j =
      (.ok t, { j with state := { j.state with tables := j.state.tables.insert name t } }) := by
  rw [keepTable, Job.perform_bind, Job.perform_get]
  rfl

theorem perform_table (h : j.state.tables.find? name = some t) : (table name).perform j = (.ok t, j) := by
  rw [table, Job.perform_bind, Job.perform_get]
  dsimp only
  rw [h]
  rfl

/-- Pushing a row replaces the table by what the push makes of it, or leaves all as it was. -/
theorem perform_pushRow (h : j.state.tables.find? name = some t) (row : List Value) :
    (pushRow name row).perform j = match t.push row with
      | .ok u => (.ok u, { j with state := { j.state with tables := j.state.tables.insert name u } })
      | .error e => (.error e, j) := by
  rw [pushRow, Job.perform_bind, perform_table h]
  dsimp only
  rw [Job.perform_bind, Job.perform_ofResult]
  cases t.push row with
  | ok u => exact perform_keepTable name u j
  | error e => rfl

/-- What rows leave behind that are pushed one after the other, whether or not they are accepted. -/
def afterPushes (name : String) (pushed : List (List Value)) (j : Journaled (Session α)) : Journaled (Session α) :=
  pushed.foldl (fun j row => ((pushRow name row).perform j).2) j

theorem find?_afterPush (h : j.state.tables.find? name = some t) (row : List Value) :
    ((pushRow name row).perform j).2.state.tables.find? name =
      some { t with rows := t.rows ++ [row].filter (·.length = t.fields.length) } := by
  rw [perform_pushRow h]
  by_cases hrow : row.length = t.fields.length
  · have hfilter : [row].filter (·.length = t.fields.length) = [row] := List.filter_cons_of_pos (decide_eq_true hrow)
    rw [BulkTable.push_of_length hrow, hfilter]
    exact (Registry.find?_insert ..).trans (if_pos rfl)
  · have hfilter : [row].filter (·.length = t.fields.length) = [] := List.filter_cons_of_neg (by simpa using hrow)
    rw [BulkTable.push_of_length_ne hrow, hfilter, List.append_nil]
    exact h

/-- **Of the rows that were pushed those of the right length have been appended**, in order. -/
theorem find?_afterPushes (h : j.state.tables.find? name = some t) (pushed : List (List Value)) :
    (afterPushes name pushed j).state.tables.find? name =
      some { t with rows := t.rows ++ pushed.filter (·.length = t.fields.length) } := by
  induction pushed generalizing t j with
  | nil => rwa [List.filter_nil, List.append_nil]
  | cons row pushed ih =>
    refine (ih (find?_afterPush h row)).trans ?_
    rw [List.append_assoc, ← List.filter_append]
    rfl

end Session

namespace BulkTable

/-- **Tables are rectangular and hold what was put into them.**  A table that was made in any of the three ways is kept
in any session, and any rows are pushed to it.  Then it has the fields it was made with and as many values in every row;
its rows are read with these fields, first those it was made with and then the pushed ones of that length, in order; and
one more row of another length is refused and leaves the session as it was.  A table of objects was made with the
parameters of each object.  A table of keys exists exactly if the store has a primary or an identity field and each key
converts to the type of the first of them; that field, at the first position, is its only column, with the converted
keys as values of its type. -/
theorem built_rectangular (schema : Schema α) :
    (∀ t, Built schema t → ∀ (name : String) (j : Journaled (Session α)) (pushed : List (List Value)),
      let ended := Session.afterPushes name pushed ((Session.keepTable name t).perform j).2
      ∃ u, ended.state.tables.find? name = some u ∧ u.fields = t.fields ∧
        (∀ row ∈ u.rows, row.length = u.fields.length) ∧
        u.toRows = (t.rows ++ pushed.filter (·.length = t.fields.length)).map (Row.mk t.fields) ∧
        ∀ row, row.length ≠ u.fields.length → (Session.pushRow name row).perform ended =
          (.error (.shapeMismatch "bulk table" (Numeral.text row.length ++ " values") (.tableSize u.fields.length)),
            ended)) ∧
    (∀ settings log requests target objects store t,
      let used := (Mapper.serveAll requests ⟨Mapper.ofSettings schema settings, log⟩).2
      ((ofEntities target objects store).perform used).1 = .ok t →
        List.Forall₂ (fun object row => ∃ added,
          used.state.rules.parametersFor schema target object store = .ok added ∧ row = added.map (·.value))
          objects t.rows) ∧
    ∀ store keys,
      ((∃ t, singleColumn store keys = .ok t) ↔
        ∃ f, Field.IsKey store f ∧ ∀ v ∈ keys, ∃ w, v.convert f.type = .ok w) ∧
      ((∃ f, Field.IsKey store f) ↔ ∃ f ∈ store, f.isPrimary = true ∨ f.isIdentity = true) ∧
      ∀ t, singleColumn store keys = .ok t → ∃ f cells, Field.IsKey store f ∧ t.fields = [{ f with ordinal := 0 }] ∧
        t.rows = cells.map ([·]) ∧
        List.Forall₂ (fun (v : Value) w => v.convert f.type = .ok w ∧ w.type? = some f.type) keys cells := by
  refine ⟨?_, ?_, fun store keys => ⟨exists_singleColumn_iff, Field.exists_isKey_iff, ?_⟩⟩
  · intro t ht name j pushed ended
    have hkept : ((Session.keepTable name t).perform j).2.state.tables.find? name = some t := by
      rw [Session.perform_keepTable]
      exact (Registry.find?_insert ..).trans (if_pos rfl)
    have hfound := Session.find?_afterPushes hkept pushed
    refine ⟨_, hfound, rfl, fun row hrow => ?_, rfl, fun row hrow => ?_⟩
    · rcases List.mem_append.1 hrow with hmade | hpushed
      · exact ht.rectangular row hmade
      · exact of_decide_eq_true (List.mem_filter.1 hpushed).2
    · exact (Session.perform_pushRow hfound row).trans (by rw [push_of_length_ne hrow])
  · intro settings log requests target objects store t used h
    exact (rows_ofEntities rfl h).imp fun _ _ hrow => hrow.2
  · intro t h
    obtain ⟨f, cells, hf, rfl, hcells⟩ := singleColumn_ok h
    exact ⟨f, cells, hf, rfl, rfl, hcells⟩

end BulkTable

namespace Sample

def keyedStore : List Field := Field.arranged [.column "code" .varchar, (Field.column "id" (.integer .int64)).identity]

def keyTable : BulkTable := ⟨[(Field.column "id" (.integer .int64)).identity], [[long 1], [long 2]]⟩

theorem singleColumn_keyedStore : BulkTable.singleColumn keyedStore [number .int32 1, text "2"] = .ok keyTable := by
  decide

def freshSession : Journaled (Session Object) := ⟨.ofMapper (.ofSettings (schemaOf types) {}), []⟩

theorem built_rectangular_keyTable : BulkTable.Built (schemaOf types) keyTable ∧
    let ended := Session.afterPushes "keys" [[long 3], [long 4, long 5], [long 6]]
      ((Session.keepTable "keys" keyTable).perform freshSession).2
    ∃ u, ended.state.tables.find? "keys" = some u ∧
      u.toRows = [[long 1], [long 2], [long 3], [long 6]].map (Row.mk keyTable.fields) ∧
      (Session.pushRow "keys" []).perform ended =
        (.error (.shapeMismatch "bulk table" "0 values" (.tableSize 1)), ended) := by
  have hbuilt : BulkTable.Built (schemaOf types) keyTable := .fromKeys singleColumn_keyedStore
  refine ⟨hbuilt, ?_⟩
  obtain ⟨u, hu, hfields, -, hrows, hrefused⟩ := (BulkTable.built_rectangular (schemaOf types)).1 keyTable hbuilt "keys"
    freshSession [[long 3], [long 4, long 5], [long 6]]
  have hone : u.fields.length = 1 := congrArg List.length hfields
  refine ⟨u, hu, hrows, ?_⟩
  rw [hrefused [] (by rw [hone]; decide), hone]
  rfl

end Sample

end RowBinding
