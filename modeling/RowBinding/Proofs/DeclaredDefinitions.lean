import RowBinding.Proofs.ReadArguments
/-!
# Declared definitions

A constructor of a declaration keeps the positions of its fields, and the definition keeps the members that are not
skipped, so the positions of the one are not those of the other.  **The definition that follows from a declaration is the
one it declares** (`StructDecl.InRange.declares`, `StructDecl.InRange.entity_declares`): a constructor takes its arguments
in the order of its parameters, each as the type of the field that the parameter is named after.
-/
namespace RowBinding

variable {σ τ : Type}

/-! ## Other types -/

/-! A declaration and its definition with the types replaced. -/

def StructField.withType (change : σ → τ) (f : StructField σ) : StructField τ :=
  ⟨f.name, change f.type, f.mappedName, f.readOnly, f.skipped⟩

def StructDecl.withTypes (change : σ → τ) (d : StructDecl σ) : StructDecl τ :=
  ⟨d.ident, d.name, d.fields.map (·.withType change), d.constructors⟩

def ConstructorOutline.withTypes (change : σ → τ) (c : ConstructorOutline σ) : ConstructorOutline τ :=
  ⟨c.name, c.params.map fun p => (p.1, change p.2), c.arguments.map fun a => (change a.1, a.2)⟩

def MemberOutline.withType (change : σ → τ) (m : MemberOutline σ) : MemberOutline τ :=
  ⟨m.name, change m.type, m.mappedName, m.writable⟩

def DefinitionOutline.withTypes (change : σ → τ) (o : DefinitionOutline σ) : DefinitionOutline τ :=
  ⟨o.ident, o.name, o.constructors.map (·.withTypes change), o.members.map (·.withType change)⟩

namespace StructDecl

variable (change : σ → τ) (d : StructDecl σ)

theorem paramFields_withTypes (c : StructConstructor) :
    (d.withTypes change).paramFields c = (d.paramFields c).map (·.withType change) := by
  unfold paramFields
  rw [List.map_filterMap]
  exact congrArg (c.params.filterMap ·) (funext fun i => List.getElem?_map)

theorem constructorOutline_withTypes (c : StructConstructor) :
    (d.withTypes change).constructorOutline c = (d.constructorOutline c).withTypes change := by
  simp only [constructorOutline, paramFields_withTypes, ConstructorOutline.withTypes, List.map_map, List.zipIdx_map]
  rfl

/-- **Which types the fields have makes no difference to what is defined.** -/
theorem definition_withTypes : (d.withTypes change).definition = d.definition.withTypes change := by
  have hconstructors : (d.withTypes change).constructors.map (d.withTypes change).constructorOutline =
      (d.constructors.map d.constructorOutline).map (·.withTypes change) := by
    rw [List.map_map]
    exact List.map_congr_left fun c _ => constructorOutline_withTypes change d c
  have hmembers : (((d.withTypes change).fields.filter (!·.skipped)).map memberOutline) =
      ((d.fields.filter (!·.skipped)).map memberOutline).map (·.withType change) := by
    show ((d.fields.map (·.withType change)).filter (!·.skipped)).map memberOutline = _
    rw [List.filter_map, List.map_map, List.map_map]
    rfl
  unfold definition
  rw [hconstructors, hmembers]
  rfl

end StructDecl

/-! ## Constructors and members -/

/-- The constructor of a declaration takes these fields. -/
def StructDecl.Selects (d : StructDecl τ) (c : StructConstructor) (fields : List (StructField τ)) : Prop :=
  List.Forall₂ (fun i f => d.fields[i]? = some f) c.params fields

/-- No parameter of a constructor is out of range. -/
def StructDecl.InRange (d : StructDecl τ) : Prop := ∀ c ∈ d.constructors, ∀ i ∈ c.params, i < d.fields.length

/-- The constructor takes these fields: each parameter has the name and the type of its field, and at its position the
argument is read as that type. -/
structure ConstructorOutline.TakesFields (c : ConstructorOutline τ) (fields : List (StructField τ)) : Prop where
  params_length : c.params.length = fields.length
  arguments_length : c.arguments.length = fields.length
  params : ∀ (p : Nat) (f : StructField τ), fields[p]? = some f → c.params[p]? = some (f.name, f.type)
  arguments : ∀ (p : Nat) (f : StructField τ), fields[p]? = some f → c.arguments[p]? = some (f.type, p)

/-- The member is that of this field. -/
structure MemberOutline.Shows (m : MemberOutline τ) (f : StructField τ) : Prop where
  name : m.name = f.name
  type : m.type = f.type
  mappedName : m.mappedName = f.mappedName
  writable : m.writable = true ↔ f.readOnly = false

/-- The definition is that of a declaration: its constructors in order, and a member for each field that is not skipped,
in order. -/
structure DefinitionOutline.Declares (o : DefinitionOutline τ) (d : StructDecl τ) : Prop where
  ident : o.ident = d.ident
  name : o.name = d.name
  constructors : List.Forall₂ (fun c outline => outline.name = c.name ∧ ∃ fields, d.Selects c fields ∧
    outline.TakesFields fields) d.constructors o.constructors
  members : List.Forall₂ (fun f m => m.Shows f) (d.fields.filter (!·.skipped)) o.members

namespace StructDecl

variable {d : StructDecl τ} {c : StructConstructor}

theorem InRange.withTypes {d : StructDecl σ} (h : d.InRange) (change : σ → τ) : (d.withTypes change).InRange := by
  intro c hc i hi
  have hlt := h c hc i hi
  rwa [StructDecl.withTypes, List.length_map]

theorem InRange.selects (h : d.InRange) (hc : c ∈ d.constructors) : d.Selects c (d.paramFields c) :=
  forall₂_filterMap fun i hi => ⟨_, List.getElem?_eq_getElem (h c hc i hi), List.getElem?_eq_getElem (h c hc i hi)⟩

theorem constructorOutline_takesFields (d : StructDecl τ) (c : StructConstructor) :
    (d.constructorOutline c).TakesFields (d.paramFields c) where
  params_length := List.length_map _
  arguments_length := by rw [constructorOutline, List.length_map, List.length_zipIdx]
  params p f hf := by rw [constructorOutline, List.getElem?_map, hf, Option.map_some]
  arguments p f hf := by
    rw [constructorOutline, List.getElem?_map, List.getElem?_zipIdx, hf, Option.map_some, Option.map_some, Nat.zero_add]

/-- **The definition of a declaration is what the declaration says**, if its parameters are in range. -/
theorem InRange.declares (h : d.InRange) : d.definition.Declares d where
  ident := rfl
  name := rfl
  constructors := by
    show List.Forall₂ _ d.constructors (d.constructors.map d.constructorOutline)
    rw [List.forall₂_map_right_iff, List.forall₂_same]
    exact fun c hc => ⟨rfl, _, h.selects hc, constructorOutline_takesFields d c⟩
  members := by
    show List.Forall₂ _ _ ((d.fields.filter (!·.skipped)).map memberOutline)
    rw [List.forall₂_map_right_iff, List.forall₂_same]
    exact fun f _ => ⟨rfl, rfl, rfl, by simp [memberOutline]⟩

end StructDecl

/-! ## Entities -/

/-- The constructor takes these fields: its parameters are theirs, in order, and it builds what the function makes of the
arguments, each read at the position of its parameter and as the type of its field. -/
structure ConstructorDef.TakesFields (c : ConstructorDef Record) (fields : List (StructField NativeType))
    (function : List Value → Record) : Prop where
  params : c.params = fields.map fun f => .ofNative f.name f.type
  build : ∀ (values : List Value) (r : Record), c.build ⟨values⟩ = .ok r ↔
    ∃ xs, List.Forall₂ (Args.Reads values) fields.zipIdx xs ∧ function xs = r

/-- The member is that of this field. -/
structure MemberDef.Shows (m : MemberDef Record) (f : StructField NativeType) : Prop where
  name : m.name = f.name
  mappedName : m.mappedName = f.mappedName
  type : m.type = f.type.valueType
  nullable : m.nullable = f.type.nullable
  get : ∀ r, m.get r = r.get f.name
  isWritable : m.isWritable = true ↔ f.readOnly = false
  set : ∀ put, m.set = some put → ∀ r v, put r v = (f.type.store v).map (r.set f.name)

/-- The entity is that of a declaration: the constructor of the default, if there is one, then those of the declaration
in order, and a member for each field that is not skipped, in order. -/
structure EntityDef.Declares (e : EntityDef Record) (d : StructDecl NativeType) (start : Option Record)
    (functions : String → List Value → Record) : Prop where
  name : e.name = d.name
  constructors : ∃ made, e.constructors = (start.map DefinitionOutline.defaultConstructor).toList ++ made ∧
    List.Forall₂ (fun c m => m.name = c.name ∧ ∃ fields, d.Selects c fields ∧ m.TakesFields fields (functions c.name))
      d.constructors made
  members : List.Forall₂ (fun f m => m.Shows f) (d.fields.filter (!·.skipped)) e.members

namespace StructDecl

variable {d : StructDecl NativeType}

theorem constructorDef_takesFields (d : StructDecl NativeType) (function : List Value → Record)
    (c : StructConstructor) :
    (DefinitionOutline.constructorDef function (d.constructorOutline c)).TakesFields (d.paramFields c) function where
  params := by
    show ((d.paramFields c).map fun f => (f.name, f.type)).map _ = _
    rw [List.map_map]
    rfl
  build _ _ := build_constructorDef_eq_ok_iff

theorem memberDef_shows (f : StructField NativeType) : (DefinitionOutline.memberDef (memberOutline f)).Shows f where
  name := rfl
  mappedName := rfl
  type := rfl
  nullable := rfl
  get _ := rfl
  isWritable := by cases h : f.readOnly <;> simp [MemberDef.isWritable, DefinitionOutline.memberDef, memberOutline, h]
  set put hput r v := by
    simp only [DefinitionOutline.memberDef, Option.ite_none_right_eq_some, Option.some.injEq] at hput
    rw [← hput.2]
    rfl

/-- **The entity of a declaration is what the declaration says**, if its parameters are in range. -/
theorem InRange.entity_declares (h : d.InRange) (start : Option Record) (functions : String → List Value → Record) :
    (d.definition.entity start functions).Declares d start functions where
  name := rfl
  constructors := by
    refine ⟨_, rfl, ?_⟩
    show List.Forall₂ _ d.constructors ((d.constructors.map d.constructorOutline).map _)
    rw [List.map_map, List.forall₂_map_right_iff, List.forall₂_same]
    exact fun c hc => ⟨rfl, _, h.selects hc, constructorDef_takesFields d (functions c.name) c⟩
  members := by
    show List.Forall₂ _ _ (((d.fields.filter (!·.skipped)).map memberOutline).map _)
    rw [List.map_map, List.forall₂_map_right_iff, List.forall₂_same]
    exact fun f _ => memberDef_shows f

end StructDecl

end RowBinding
