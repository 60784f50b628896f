import RowBinding.Proofs.DerivedEntities
/-!
# Setters that update fields

Each member of an entity may have a field of its own in the objects.  Its setter then makes something of the value,
without looking at the object, and writes that into the field, and nothing that is written into one field is seen in
another one.  This is what `EntityDef.FieldUpdates` asks for.  **The definition that follows from a declaration has such
setters** (`StructDecl.Proper.fieldUpdates`).
-/
namespace RowBinding

variable {α : Type}

/-- The setters of an entity update fields that have nothing to do with one another. -/
structure EntityDef.FieldUpdates (e : EntityDef α) where
  /-- What the field of a member may hold. -/
  Content : Nat → Type
  /-- What the setter of a member makes of a value. -/
  convert (i : Nat) : Value → Result (Content i)
  read (i : Nat) : α → Content i
  write (i : Nat) : Content i → α → α
  /-- The object has all the fields. -/
  Whole : α → Prop
  set : ∀ {i : Nat} {m : MemberDef α} {put : α → Value → Result α}, e.members[i]? = some m → m.set = some put →
    ∀ a v, put a v = (convert i v).map (write i · a)
  build : ∀ c ∈ e.constructors, ∀ {arguments : Args} {a : α}, c.build arguments = .ok a → Whole a
  whole_write : ∀ {a : α}, Whole a → ∀ (i : Nat) (x : Content i), Whole (write i x a)
  read_write : ∀ {i : Nat} {a : α}, i < e.members.length → Whole a → ∀ x, read i (write i x a) = x
  read_write_ne : ∀ {i j : Nat}, j ≠ i → ∀ (x : Content i) (a : α), read j (write i x a) = read j a
  write_comm : ∀ {i j : Nat}, j ≠ i → ∀ (x : Content i) (y : Content j) (a : α),
    write j y (write i x a) = write i x (write j y a)

namespace EntityDef.FieldUpdates

variable {e : EntityDef α} (f : e.FieldUpdates)

/-- Something for the field of a member. -/
abbrev Update : Type := Σ i, f.Content i

/-- Writes something into the field it is for. -/
def put (a : α) (u : f.Update) : α := f.write u.1 u.2 a

/-- **Fields may be written in any order.** -/
theorem foldl_put_perm {us vs : List f.Update} (h : us.Perm vs) (hmembers : (us.map Sigma.fst).Nodup) (a : α) :
    us.foldl f.put a = vs.foldl f.put a := by
  refine h.foldl_eq' (fun u hu v hv b => ?_) a
  by_cases hsame : v.1 = u.1
  · rw [List.inj_on_of_nodup_map hmembers hv hu hsame]
  · exact f.write_comm hsame u.2 v.2 b

/-- **What was written into a field is found there**, and the other fields hold what they held before. -/
theorem read_foldl_put : ∀ {us : List f.Update} {a : α}, (us.map Sigma.fst).Nodup →
    (∀ u ∈ us, u.1 < e.members.length) → f.Whole a → (∀ u ∈ us, f.read u.1 (us.foldl f.put a) = u.2) ∧
      ∀ i, i ∉ us.map Sigma.fst → f.read i (us.foldl f.put a) = f.read i a
  | [], _, _, _, _ => ⟨nofun, fun _ _ => rfl⟩
  | u :: us, a, hmembers, hlt, ha => by
    rw [List.map_cons, List.nodup_cons] at hmembers
    have hput : f.Whole (f.put a u) := f.whole_write ha u.1 u.2
    obtain ⟨hwritten, hothers⟩ := read_foldl_put hmembers.2 (fun v hv => hlt v (List.mem_cons_of_mem u hv)) hput
    refine ⟨fun v hv => ?_, fun i hi => ?_⟩
    · rcases List.mem_cons.1 hv with rfl | hv
      · exact (hothers v.1 hmembers.1).trans (f.read_write (hlt v List.mem_cons_self) ha v.2)
      · exact hwritten v hv
    · rw [List.map_cons, List.mem_cons, not_or] at hi
      exact (hothers i hi.2).trans (f.read_write_ne hi.1 u.2 a)

end EntityDef.FieldUpdates

/-! ## Records -/

namespace Record

theorem has_set {r : Record} {name : String} (h : r.Has name) (other : String) (v : Value) : (r.set other v).Has name := by
  obtain ⟨f, hf, hname⟩ := h
  refine ⟨_, List.mem_map_of_mem hf, ?_⟩
  split
  · exact hname
  · exact hname

theorem set_comm {name other : String} (h : other ≠ name) (v w : Value) (r : Record) :
    (r.set name v).set other w = (r.set other w).set name v := by
  unfold set
  rw [List.map_map, List.map_map]
  refine congrArg Record.mk (List.map_congr_left fun f _ => ?_)
  dsimp only [Function.comp_apply]
  by_cases hname : f.1 = name
  · simp [hname, Ne.symm h]
  · by_cases hother : f.1 = other
    · simp [hother, h]
    · simp [hname, hother]

end Record

/-! ## Declarations -/

namespace StructDecl

variable {d : StructDecl NativeType} {start : Option Record} {functions : String → List Value → Record}

theorem has_of_holds {r : Record} (h : d.Holds r) : ∀ f ∈ d.fields, r.Has f.name :=
  fun f hf => Record.has_of_stored (h f hf)

/-- What a constructor of a declaration builds is a record of the declaration. -/
theorem Proper.holds_of_build (h : d.Proper start functions) {made : ConstructorDef Record}
    (hmade : made ∈ (d.definition.entity start functions).constructors) {arguments : Args} {r : Record}
    (hr : made.build arguments = .ok r) : d.Holds r := by
  rcases List.mem_append.1 hmade with hdefault | hlisted
  · obtain ⟨r', hr', rfl⟩ := Option.map_eq_some_iff.1 (Option.mem_toList.1 hdefault)
    obtain rfl := Except.ok.inj hr
    exact h.start r' hr'
  · obtain ⟨o, ho, rfl⟩ := List.mem_map.1 hlisted
    obtain ⟨c, hc, rfl⟩ := List.mem_map.1 ho
    obtain ⟨values, hvalues, rfl⟩ := build_constructorDef_eq_ok_iff.1 hr
    exact (h.functions c hc values (Args.stored_of_reads hvalues)).1

theorem name_ne_of_kept (h : d.Proper start functions) {i j : Nat} {f g : StructField NativeType}
    (hf : d.kept[i]? = some f) (hg : d.kept[j]? = some g) (hne : j ≠ i) : g.name ≠ f.name := by
  intro hname
  obtain rfl := eq_of_name h.names (mem_of_kept (List.mem_of_getElem? hg)) (mem_of_kept (List.mem_of_getElem? hf)) hname
  exact hne ((List.getElem?_inj (List.getElem?_eq_some_iff.1 hg).1 (nodup_kept h.names)).1 (hg.trans hf.symm))

/-- **The setters of a declaration update fields**: each stores the value in the form of the member's type. -/
def Proper.fieldUpdates (h : d.Proper start functions) : (d.definition.entity start functions).FieldUpdates where
  Content _ := Value
  convert i v := ((d.kept[i]?).map fun f => f.type.store v).getD (.ok v)
  read i r := ((d.kept[i]?).map fun f => r.get f.name).getD .untyped
  write i v r := ((d.kept[i]?).map fun f => r.set f.name v).getD r
  Whole r := ∀ f ∈ d.fields, r.Has f.name
  set := by
    intro i m put hm hput r v
    obtain ⟨f, hf, rfl⟩ := getElem?_members hm
    rw [hf]
    rw [DefinitionOutline.memberDef] at hput
    dsimp only at hput
    split at hput
    · exact (congrFun (congrFun (Option.some.inj hput) r) v).symm
    · cases hput
  build c hc arguments r hr := has_of_holds (h.holds_of_build hc hr)
  whole_write := by
    intro r hr i v g hg
    cases hf : d.kept[i]? with
    | none => exact hr g hg
    | some f => exact Record.has_set (hr g hg) f.name v
  read_write := by
    intro i r hi hr v
    rw [members_eq, List.length_map] at hi
    rw [List.getElem?_eq_getElem hi]
    exact Record.get_set_self (hr _ (mem_of_kept (List.getElem_mem hi))) v
  read_write_ne := by
    intro i j hne v r
    cases hf : d.kept[i]? with
    | none => rfl
    | some f =>
      cases hg : d.kept[j]? with
      | none => rfl
      | some g => exact Record.get_set_ne r (name_ne_of_kept h hf hg hne) v
  write_comm := by
    intro i j hne v w r
    cases hf : d.kept[i]? with
    | none => rfl
    | some f =>
      cases hg : d.kept[j]? with
      | none => rfl
      | some g => exact Record.set_comm (name_ne_of_kept h hf hg hne) v w r

end StructDecl

end RowBinding
