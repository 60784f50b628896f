import RowBinding.Entity.Embedding
import RowBinding.Proofs.ReadArguments
import RowBinding.Proofs.StoreNames
/-!
# Derived entities

A derived definition keeps each member in a field of its own: the getter gives the stored form of the field, the setter
replaces the field and nothing else, and a constructor stores each argument into the field it is named after.  This is
what `EntityDef.Derived` says of the objects with a property.  **The definition that follows from a declaration is
derived** (`StructDecl.derived`), whatever its default and its functions are, if these make records of the declaration.
-/
namespace RowBinding

variable {α : Type}

/-- The value is a stored value of the type at a position. -/
def Fits (types : List NativeType) (i : Nat) (v : Value) : Prop := ∃ t, types[i]? = some t ∧ t.Stored v

/-- The members of the entity are fields of these native types in the objects with a property. -/
structure EntityDef.Derived (e : EntityDef α) (types : List NativeType) (I : α → Prop) : Prop where
  typed : List.Forall₂ (fun (m : MemberDef α) (t : NativeType) => m.type = t.valueType ∧ m.nullable = t.nullable)
    e.members types
  get : ∀ {a : α} {i : Nat} {m : MemberDef α}, I a → e.members[i]? = some m → Fits types i (m.get a)
  set : ∀ {a : α} {i : Nat} {m : MemberDef α} {put : α → Value → Result α} {v : Value}, I a →
    e.members[i]? = some m → m.set = some put → Fits types i v →
      ∃ b, put a v = .ok b ∧ I b ∧ m.get b = v ∧
        ∀ (j : Nat) (n : MemberDef α), e.members[j]? = some n → j ≠ i → n.get b = n.get a
  build : ∀ c ∈ e.constructors, ∃ positions : List Nat, positions.Nodup ∧ List.Forall₂ e.Feeds c.params positions ∧
    ∀ values, List.Forall₂ (Fits types) positions values → ∃ a, c.build ⟨values⟩ = .ok a ∧ I a ∧
      List.Forall₂ (fun i v => ∃ m, e.members[i]? = some m ∧ m.get a = v) positions values

/-! ## Embedding -/

section Embedding

variable {β : Type} {inject : β → α} {project : α → Option β}

theorem MemberDef.get_embed (hproject : ∀ b, project (inject b) = some b) (m : MemberDef β) (b : β) :
    (m.embed inject project).get (inject b) = m.get b := by
  show ((project (inject b)).map m.get).getD .untyped = _
  rw [hproject]
  rfl

theorem EntityDef.getElem?_embed {e : EntityDef β} {i : Nat} {m : MemberDef α}
    (h : (e.embed inject project).members[i]? = some m) : ∃ n, e.members[i]? = some n ∧ m = n.embed inject project := by
  rw [embed, List.getElem?_map] at h
  obtain ⟨n, hn, rfl⟩ := Option.map_eq_some_iff.1 h
  exact ⟨n, hn, rfl⟩

/-- An entity stays derived when its objects are embedded into a common type. -/
theorem EntityDef.Derived.embed {e : EntityDef β} {types : List NativeType} {I : β → Prop}
    (hproject : ∀ b, project (inject b) = some b) (h : e.Derived types I) :
    (e.embed inject project).Derived types fun a => ∃ b, a = inject b ∧ I b where
  typed := by
    rw [EntityDef.embed, List.forall₂_map_left_iff]
    exact h.typed
  get := by
    rintro _ i _ ⟨b, rfl, hb⟩ hmember
    obtain ⟨m, hm, rfl⟩ := EntityDef.getElem?_embed hmember
    rw [MemberDef.get_embed hproject]
    exact h.get hb hm
  set := by
    rintro _ i _ _ v ⟨b, rfl, hb⟩ hmember hput hv
    obtain ⟨m, hm, rfl⟩ := EntityDef.getElem?_embed hmember
    obtain ⟨put, hset, rfl⟩ := Option.map_eq_some_iff.1 hput
    obtain ⟨c, hc, hI, hself, hothers⟩ := h.set hb hm hset hv
    refine ⟨inject c, ?_, ⟨c, rfl, hI⟩, ?_, fun j other hother hj => ?_⟩
    · dsimp only
      rw [hproject]
      exact congrArg (Except.map inject) hc
    · rw [MemberDef.get_embed hproject, hself]
    · obtain ⟨n, hn, rfl⟩ := EntityDef.getElem?_embed hother
      rw [MemberDef.get_embed hproject, MemberDef.get_embed hproject]
      exact hothers j n hn hj
  build := by
    intro made hmade
    obtain ⟨c, hc, rfl⟩ := List.mem_map.1 hmade
    obtain ⟨positions, hnodup, hparams, hbuild⟩ := h.build c hc
    have hmember : ∀ {i : Nat} {m : MemberDef β}, e.members[i]? = some m →
        (e.embed inject project).members[i]? = some (m.embed inject project) := by
      intro i m hm
      rw [EntityDef.embed, List.getElem?_map, hm, Option.map_some]
    refine ⟨positions, hnodup, ?_, fun values hvalues => ?_⟩
    · exact hparams.imp fun param i ⟨m, hm, hfeeds⟩ => ⟨m.embed inject project, hmember hm, hfeeds⟩
    · obtain ⟨b, hb, hI, hhas⟩ := hbuild values hvalues
      refine ⟨inject b, congrArg (Except.map inject) hb, ⟨b, rfl, hI⟩, hhas.imp fun i v ⟨m, hm, hv⟩ => ?_⟩
      exact ⟨m.embed inject project, hmember hm, by rw [MemberDef.get_embed hproject, hv]⟩

end Embedding

/-! ## Records -/

namespace Record

/-- The record has a field of this name. -/
def Has (r : Record) (name : String) : Prop := ∃ f ∈ r.fields, f.1 = name

theorem name_of_find? {r : Record} {name : String} {f : String × Value} (h : r.fields.find? (·.1 == name) = some f) :
    f.1 = name := by
  have hname := List.find?_some h
  exact beq_iff_eq.1 hname

theorem find?_set (r : Record) (name other : String) (v : Value) : (r.set name v).fields.find? (·.1 == other) =
    (r.fields.find? (·.1 == other)).map fun f => if f.1 == name then (f.1, v) else f := by
  have hsame : (fun f : String × Value => f.1 == other) ∘ (fun f => if f.1 == name then (f.1, v) else f) =
      fun f => f.1 == other := by
    funext f
    dsimp only [Function.comp_apply]
    split <;> rfl
  rw [set, List.find?_map, hsame]

theorem get_set_self {r : Record} {name : String} (h : r.Has name) (v : Value) : (r.set name v).get name = v := by
  obtain ⟨f, hf, hname⟩ := h
  have hsome : (r.fields.find? (·.1 == name)).isSome = true := by
    rw [List.find?_isSome]
    exact ⟨f, hf, by simp [hname]⟩
  obtain ⟨g, hg⟩ := Option.isSome_iff_exists.1 hsome
  rw [get, find?_set, hg, Option.map_some, if_pos (beq_iff_eq.2 (name_of_find? hg))]
  rfl

theorem get_set_ne (r : Record) {name other : String} (h : other ≠ name) (v : Value) :
    (r.set name v).get other = r.get other := by
  rw [get, get, find?_set]
  cases hf : r.fields.find? (·.1 == other) with
  | none => rfl
  | some f => rw [Option.map_some, if_neg (by simp [name_of_find? hf, h])]

theorem has_of_stored {r : Record} {name : String} {t : NativeType} (h : t.Stored (r.get name)) : r.Has name := by
  cases hf : r.fields.find? (·.1 == name) with
  | none =>
    have huntyped : r.get name = .untyped := by rw [get, hf]; rfl
    have htype := huntyped ▸ h.type?
    cases htype
  | some f => exact ⟨f, List.mem_of_find?_eq_some hf, name_of_find? hf⟩

end Record

/-! ## Declarations -/

namespace StructDecl

variable {d : StructDecl NativeType} {start : Option Record} {functions : String → List Value → Record}

/-- The fields that are members. -/
def kept (d : StructDecl NativeType) : List (StructField NativeType) := d.fields.filter (!·.skipped)

/-- The record is one of the declaration: it holds a stored value in each field. -/
def Holds (d : StructDecl NativeType) (r : Record) : Prop := ∀ f ∈ d.fields, f.type.Stored (r.get f.name)

instance (d : StructDecl NativeType) (r : Record) : Decidable (d.Holds r) :=
  inferInstanceAs (Decidable (∀ f ∈ d.fields, f.type.Stored (r.get f.name)))

/-- The declaration has distinct field names, its constructors take members, each of them once, and both the default and
the functions make records of the declaration, the functions with their arguments in the fields of the parameters. -/
structure Proper (d : StructDecl NativeType) (start : Option Record) (functions : String → List Value → Record) :
    Prop where
  names : (d.fields.map (·.name)).Nodup
  params : ∀ c ∈ d.constructors, c.params.Nodup ∧ ∀ i ∈ c.params, ∃ f, d.fields[i]? = some f ∧ f.skipped = false
  start : ∀ r, start = some r → d.Holds r
  functions : ∀ c ∈ d.constructors, ∀ values, List.Forall₂ (fun f v => f.type.Stored v) (d.paramFields c) values →
    d.Holds (functions c.name values) ∧
      List.Forall₂ (fun f v => (functions c.name values).get f.name = v) (d.paramFields c) values

theorem eq_of_name (h : (d.fields.map (·.name)).Nodup) {f g : StructField NativeType} (hf : f ∈ d.fields)
    (hg : g ∈ d.fields) (hname : f.name = g.name) : f = g :=
  List.inj_on_of_nodup_map h hf hg hname

theorem mem_of_kept {f : StructField NativeType} (h : f ∈ d.kept) : f ∈ d.fields := (List.mem_filter.1 h).1

theorem nodup_kept (h : (d.fields.map (·.name)).Nodup) : d.kept.Nodup := (List.Nodup.of_map _ h).filter _

theorem members_eq : (d.definition.entity start functions).members =
    d.kept.map fun f => DefinitionOutline.memberDef (memberOutline f) := by
  show (d.kept.map memberOutline).map DefinitionOutline.memberDef = _
  rw [List.map_map]
  rfl

theorem getElem?_members {i : Nat} {m : MemberDef Record}
    (h : (d.definition.entity start functions).members[i]? = some m) :
    ∃ f, d.kept[i]? = some f ∧ m = DefinitionOutline.memberDef (memberOutline f) := by
  rw [members_eq, List.getElem?_map] at h
  obtain ⟨f, hf, rfl⟩ := Option.map_eq_some_iff.1 h
  exact ⟨f, hf, rfl⟩

/-- Where the members stand that a constructor takes. -/
def positions (d : StructDecl NativeType) (c : StructConstructor) : List Nat := (d.paramFields c).map (d.kept.idxOf ·)

namespace Proper

variable {c : StructConstructor}

theorem mem_kept (h : d.Proper start functions) (hc : c ∈ d.constructors) : ∀ f ∈ d.paramFields c, f ∈ d.kept := by
  intro f hf
  obtain ⟨i, hi, hfi⟩ := List.mem_filterMap.1 hf
  obtain ⟨g, hg, hskipped⟩ := (h.params c hc).2 i hi
  obtain rfl : g = f := Option.some.inj (hg.symm.trans hfi)
  exact List.mem_filter.2 ⟨List.mem_of_getElem? hg, by rw [hskipped]; rfl⟩

theorem nodup_positions (h : d.Proper start functions) (hc : c ∈ d.constructors) : (d.positions c).Nodup := by
  have hfields : d.fields.Nodup := List.Nodup.of_map _ h.names
  have hparams : (d.paramFields c).Nodup := by
    refine List.Nodup.filterMap (fun i j f hi hj => ?_) (h.params c hc).1
    exact (List.getElem?_inj (List.getElem?_eq_some_iff.1 hi).1 hfields).1 (hi.trans hj.symm)
  exact List.Nodup.map_on (fun f hf g _ heq => (List.idxOf_inj (h.mem_kept hc f hf)).1 heq) hparams

theorem feeds (h : d.Proper start functions) (hc : c ∈ d.constructors) :
    List.Forall₂ (d.definition.entity start functions).Feeds
      ((d.paramFields c).map fun f => ParamDef.ofNative f.name f.type) (d.positions c) := by
  rw [positions, List.forall₂_map_left_iff, List.forall₂_map_right_iff, List.forall₂_same]
  intro f hf
  refine ⟨DefinitionOutline.memberDef (memberOutline f), ?_, Text.sameName_iff.2 rfl, rfl, rfl⟩
  rw [members_eq, List.getElem?_map, List.getElem?_idxOf (h.mem_kept hc f hf), Option.map_some]

theorem stored_of_fits (h : d.Proper start functions) (hc : c ∈ d.constructors) {values : List Value}
    (hvalues : List.Forall₂ (Fits (d.kept.map (·.type))) (d.positions c) values) :
    List.Forall₂ (fun f v => f.type.Stored v) (d.paramFields c) values := by
  rw [positions, List.forall₂_map_left_iff] at hvalues
  have hall := (List.forall₂_and_left _ _).2 ⟨h.mem_kept hc, hvalues⟩
  refine hall.imp fun f v ⟨hf, t, ht, hv⟩ => ?_
  rw [List.getElem?_map, List.getElem?_idxOf hf, Option.map_some] at ht
  rwa [Option.some.inj ht]

theorem build (h : d.Proper start functions) (hc : c ∈ d.constructors) {values : List Value}
    (hvalues : List.Forall₂ (Fits (d.kept.map (·.type))) (d.positions c) values) :
    ∃ r, (DefinitionOutline.constructorDef (functions c.name) (d.constructorOutline c)).build ⟨values⟩ = .ok r ∧
      d.Holds r ∧ List.Forall₂ (fun i v => ∃ m, (d.definition.entity start functions).members[i]? = some m ∧ m.get r = v)
        (d.positions c) values := by
  have hstored := h.stored_of_fits hc hvalues
  obtain ⟨hholds, hargs⟩ := h.functions c hc values hstored
  refine ⟨functions c.name values, ?_, hholds, ?_⟩
  · exact build_constructorDef_eq_ok_iff.2 ⟨values, Args.reads_of_stored hstored, rfl⟩
  · rw [positions, List.forall₂_map_left_iff]
    refine ((List.forall₂_and_left _ _).2 ⟨h.mem_kept hc, hargs⟩).imp fun f v ⟨hf, hv⟩ => ?_
    refine ⟨DefinitionOutline.memberDef (memberOutline f), ?_, hv⟩
    rw [members_eq, List.getElem?_map, List.getElem?_idxOf hf, Option.map_some]

end Proper

theorem holds_set (h : (d.fields.map (·.name)).Nodup) {r : Record} (hr : d.Holds r) {f : StructField NativeType}
    (hf : f ∈ d.fields) {v : Value} (hv : f.type.Stored v) : d.Holds (r.set f.name v) := by
  intro g hg
  by_cases hname : g.name = f.name
  · rw [eq_of_name h hg hf hname, Record.get_set_self (Record.has_of_stored (hr f hf))]
    exact hv
  · rw [Record.get_set_ne r hname]
    exact hr g hg

/-- **The definition that follows from a declaration is derived.** -/
theorem derived (h : d.Proper start functions) :
    (d.definition.entity start functions).Derived (d.kept.map (·.type)) d.Holds where
  typed := by
    rw [members_eq, List.forall₂_map_left_iff, List.forall₂_map_right_iff, List.forall₂_same]
    exact fun f _ => ⟨rfl, rfl⟩
  get := by
    intro r i m hr hm
    obtain ⟨f, hf, rfl⟩ := getElem?_members hm
    exact ⟨f.type, by rw [List.getElem?_map, hf, Option.map_some], hr f (mem_of_kept (List.mem_of_getElem? hf))⟩
  set := by
    intro r i m put v hr hm hput hv
    obtain ⟨f, hf, rfl⟩ := getElem?_members hm
    have hmem := mem_of_kept (List.mem_of_getElem? hf)
    obtain ⟨t, ht, hv⟩ := hv
    rw [List.getElem?_map, hf, Option.map_some] at ht
    obtain rfl := Option.some.inj ht
    obtain rfl : (fun r v => (f.type.store v).map (Record.set r f.name)) = put := by
      rw [DefinitionOutline.memberDef] at hput
      dsimp only at hput
      split at hput
      · exact Option.some.inj hput
      · cases hput
    refine ⟨r.set f.name v, ?_, holds_set h.names hr hmem hv, ?_, fun j n hn hj => ?_⟩
    · exact congrArg (Except.map (r.set f.name)) (NativeType.store_of_stored hv)
    · exact Record.get_set_self (Record.has_of_stored (hr f hmem)) v
    · obtain ⟨g, hg, rfl⟩ := getElem?_members hn
      refine Record.get_set_ne r (fun hname => hj ?_) v
      obtain rfl := eq_of_name h.names (mem_of_kept (List.mem_of_getElem? hg)) hmem hname
      exact (List.getElem?_inj (List.getElem?_eq_some_iff.1 hg).1 (nodup_kept h.names)).1 (hg.trans hf.symm)
  build := by
    intro made hmade
    rcases List.mem_append.1 hmade with hdefault | hlisted
    · obtain ⟨r, hr, rfl⟩ := Option.map_eq_some_iff.1 (Option.mem_toList.1 hdefault)
      refine ⟨[], List.nodup_nil, .nil, fun values hvalues => ⟨r, rfl, h.start r hr, ?_⟩⟩
      cases hvalues
      exact .nil
    · obtain ⟨o, ho, rfl⟩ := List.mem_map.1 hlisted
      obtain ⟨c, hc, rfl⟩ := List.mem_map.1 ho
      refine ⟨d.positions c, h.nodup_positions hc, ?_, fun values hvalues => h.build hc hvalues⟩
      have hparams : (DefinitionOutline.constructorDef (functions c.name) (d.constructorOutline c)).params =
          (d.paramFields c).map fun f => ParamDef.ofNative f.name f.type := by
        show ((d.paramFields c).map fun f => (f.name, f.type)).map _ = _
        rw [List.map_map]
        rfl
      have hfeeds := h.feeds hc
      rwa [← hparams] at hfeeds

end StructDecl

end RowBinding
