import RowBinding.Derive.Struct
import RowBinding.Proofs.StoredValues
/-!
# How arguments are read

A constructor over records reads its arguments from the first to the last, and an argument that has been read leaves a
NULL behind.  As every parameter has a position of its own, none of them sees that NULL.  **The constructor of a
declaration builds something exactly if there is an argument for each parameter, which the parameter's type can store**
(`StructDecl.build_constructorDef_eq_ok_iff`), and then it gives what is stored to the function, in order.
-/
namespace RowBinding

namespace Args

variable {β γ : Type} {t : NativeType} {i : Nat} {a b : Args}

/-! ## One argument -/

theorem run_bind_of_ok {reader : ArgsReader β} {next : β → ArgsReader γ} {x : β} (h : reader.run a = (.ok x, b)) :
    (reader >>= next).run a = (next x).run b := by
  rw [ExceptT.run_bind]
  show StateT.bind reader.run _ a = _
  rw [StateT.bind, h]
  rfl

theorem run_bind_eq_ok_iff {reader : ArgsReader β} {next : β → ArgsReader γ} {c : Args} {y : γ} :
    (reader >>= next).run a = (.ok y, c) ↔ ∃ x b, reader.run a = (.ok x, b) ∧ (next x).run b = (.ok y, c) := by
  constructor
  · intro h
    cases hran : reader.run a with
    | mk result b =>
      rw [ExceptT.run_bind] at h
      replace h : (StateT.bind reader.run _ a : Except Failure γ × Args) = (.ok y, c) := h
      rw [StateT.bind, hran] at h
      cases result with
      | error e => cases h
      | ok x => exact ⟨x, b, rfl, h⟩
  · rintro ⟨x, b, hx, hy⟩
    rw [run_bind_of_ok hx, hy]

theorem feed_eq_ok_iff {reader : ArgsReader β} {x : β} : feed reader a = .ok x ↔ ∃ b, reader.run a = (.ok x, b) :=
  ⟨fun h => ⟨_, Prod.ext h rfl⟩, fun ⟨_, h⟩ => congrArg Prod.fst h⟩

theorem take_of_none (ha : a.values[i]? = none) : (take t i).run a = (.error (.missingArgument i), a) := by
  refine (run_bind_of_ok (show (MonadState.get : ArgsReader Args).run a = (.ok a, a) from rfl)).trans ?_
  simp only [ha]
  rfl

theorem take_of_ofValue {v : Value} {x : t.Carrier} (ha : a.values[i]? = some v) (hx : t.ofValue v = .ok x) :
    (take t i).run a = (.ok x, ⟨a.values.set i .untyped⟩) := by
  refine (run_bind_of_ok (show (MonadState.get : ArgsReader Args).run a = (.ok a, a) from rfl)).trans ?_
  simp only [ha, hx]
  rfl

theorem take_of_error {v : Value} {e : Failure} (ha : a.values[i]? = some v) (he : t.ofValue v = .error e) :
    (take t i).run a = (.error (e.inArgument i), ⟨a.values.set i .untyped⟩) := by
  refine (run_bind_of_ok (show (MonadState.get : ArgsReader Args).run a = (.ok a, a) from rfl)).trans ?_
  simp only [ha, he]
  rfl

theorem take_eq_ok_iff {x : t.Carrier} : (take t i).run a = (.ok x, b) ↔
    ∃ v, a.values[i]? = some v ∧ t.ofValue v = .ok x ∧ b = ⟨a.values.set i .untyped⟩ := by
  constructor
  · intro h
    cases ha : a.values[i]? with
    | none => cases h.symm.trans (take_of_none ha)
    | some v =>
      cases hv : t.ofValue v with
      | error e => cases h.symm.trans (take_of_error ha hv)
      | ok y =>
        cases h.symm.trans (take_of_ofValue ha hv)
        exact ⟨v, rfl, hv, rfl⟩
  · rintro ⟨v, ha, hx, rfl⟩
    exact take_of_ofValue ha hx

theorem takeStored_eq_ok_iff {x : Value} : (takeStored t i).run a = (.ok x, b) ↔
    ∃ v, a.values[i]? = some v ∧ t.store v = .ok x ∧ b = ⟨a.values.set i .untyped⟩ := by
  rw [takeStored, run_bind_eq_ok_iff]
  simp only [take_eq_ok_iff, NativeType.store, Result.map_eq_ok_iff]
  constructor
  · rintro ⟨y, c, ⟨v, ha, hv, rfl⟩, hx⟩
    cases hx
    exact ⟨v, ha, ⟨y, hv, rfl⟩, rfl⟩
  · rintro ⟨v, ha, ⟨y, hv, rfl⟩, rfl⟩
    exact ⟨y, _, ⟨v, ha, hv, rfl⟩, rfl⟩

/-! ## All arguments -/

/-- What an argument is read as: the value at the position of a field, in the stored form of the field's type. -/
def Reads (values : List Value) (fp : StructField NativeType × Nat) (x : Value) : Prop :=
  ∃ v, values[fp.2]? = some v ∧ fp.1.type.store v = .ok x

variable {fields : List (StructField NativeType)} {values values' xs : List Value} {k : Nat}

/-- Only the values from the first position on are read. -/
theorem forall₂_reads_congr (h : ∀ i, k ≤ i → values[i]? = values'[i]?)
    (hall : List.Forall₂ (Reads values) (fields.zipIdx k) xs) :
    List.Forall₂ (Reads values') (fields.zipIdx k) xs := by
  have hfrom : ∀ fp ∈ fields.zipIdx k, k ≤ fp.2 := fun fp hfp => List.le_snd_of_mem_zipIdx hfp
  refine ((List.forall₂_and_left _ _).2 ⟨hfrom, hall⟩).imp ?_
  rintro fp x ⟨hle, v, hv, hx⟩
  exact ⟨v, (h _ hle).symm.trans hv, hx⟩

theorem stored_of_reads (h : List.Forall₂ (Reads values) (fields.zipIdx k) xs) :
    List.Forall₂ (fun f x => f.type.Stored x) fields xs := by
  rw [← List.zipIdx_map_fst k fields, List.forall₂_map_left_iff]
  exact h.imp fun fp x ⟨_, _, hx⟩ => NativeType.stored_of_store hx

theorem reads_of_stored (h : List.Forall₂ (fun f v => f.type.Stored v) fields values) :
    List.Forall₂ (Reads values) fields.zipIdx values := by
  have hlen : fields.zipIdx.length = values.length := by rw [List.length_zipIdx, h.length_eq]
  refine forall₂_of_getElem? hlen fun p fp v hfp hv => ?_
  rw [List.getElem?_zipIdx] at hfp
  obtain ⟨f, hf, rfl⟩ := Option.map_eq_some_iff.1 hfp
  refine ⟨v, ?_, NativeType.store_of_stored (forall₂_getElem? h hf hv)⟩
  rw [Nat.zero_add, hv]

end Args

/-- **Arguments are read one by one, each at its own position.** -/
theorem DefinitionOutline.readArguments_eq_ok_iff {fields : List (StructField NativeType)} {k : Nat} {a : Args}
    {xs : List Value} :
    (∃ b, (readArguments ((fields.zipIdx k).map fun fi => (fi.1.type, fi.2))).run a = (.ok xs, b)) ↔
      List.Forall₂ (Args.Reads a.values) (fields.zipIdx k) xs := by
  induction fields generalizing k a xs with
  | nil =>
    rw [List.zipIdx_nil, List.forall₂_nil_left_iff]
    constructor
    · rintro ⟨b, h⟩
      cases h
      rfl
    · rintro rfl
      exact ⟨a, rfl⟩
  | cons f fields ih =>
    -- The NULL that the first argument leaves behind is in front of all others.
    have hset : ∀ i, k + 1 ≤ i → (a.values.set k .untyped)[i]? = a.values[i]? :=
      fun i hi => List.getElem?_set_ne (Nat.ne_of_lt hi)
    rw [List.zipIdx_cons, List.map_cons, List.forall₂_cons_left_iff, readArguments]
    simp only [Args.run_bind_eq_ok_iff, Args.takeStored_eq_ok_iff]
    constructor
    · rintro ⟨b, x, _, ⟨v, hv, hx, rfl⟩, rest, c, hrest, h⟩
      cases h
      exact ⟨x, rest, ⟨v, hv, hx⟩, Args.forall₂_reads_congr hset (ih.1 ⟨_, hrest⟩), rfl⟩
    · rintro ⟨x, rest, ⟨v, hv, hx⟩, hrest, rfl⟩
      obtain ⟨b, hb⟩ := ih.2 (Args.forall₂_reads_congr (fun i hi => (hset i hi).symm) hrest)
      exact ⟨b, x, _, ⟨v, hv, hx, rfl⟩, rest, b, hb, rfl⟩

/-- **What a constructor of a declaration builds.** -/
theorem StructDecl.build_constructorDef_eq_ok_iff {d : StructDecl NativeType} {function : List Value → Record}
    {c : StructConstructor} {a : Args} {r : Record} :
    (DefinitionOutline.constructorDef function (d.constructorOutline c)).build a = .ok r ↔
      ∃ xs, List.Forall₂ (Args.Reads a.values) (d.paramFields c).zipIdx xs ∧ function xs = r := by
  show Args.feed (DefinitionOutline.readArguments ((d.paramFields c).zipIdx.map fun fi => (fi.1.type, fi.2)) >>=
    fun xs => return function xs) a = .ok r ↔ _
  simp only [← DefinitionOutline.readArguments_eq_ok_iff, Args.feed_eq_ok_iff, Args.run_bind_eq_ok_iff]
  constructor
  · rintro ⟨b, xs, c, hxs, h⟩
    cases h
    exact ⟨xs, ⟨_, hxs⟩, rfl⟩
  · rintro ⟨xs, ⟨b, hxs⟩, rfl⟩
    exact ⟨b, xs, b, hxs, rfl⟩

end RowBinding
