import RowBinding.Entity.Definition
/-!
# Declarations of structs

A struct is declared with fields and with functions that construct it.  From the declaration
follows the definition the mapper works with: a constructor without parameters if the struct has a
default, one constructor for each function listed, and one member for each field that is not
skipped.

The declaration leaves open what the type of a field is.  It may be the text of a type, from which
code is written, or a native type, from which the definition itself is made; **both come from the
same steps**.
-/
namespace RowBinding

/-- A field of a struct. -/
structure StructField (τ : Type) where
  name : String
  type : τ
  /-- The name in the store. -/
  mappedName : Option String
  /-- The field is never assigned. -/
  readOnly : Bool
  /-- The field is no member. -/
  skipped : Bool
  deriving DecidableEq

/-- A field without attributes. -/
def StructField.plain {τ : Type} (name : String) (type : τ) : StructField τ :=
  ⟨name, type, none, false, false⟩

/-- A function that constructs a struct from the fields at these positions. -/
structure StructConstructor where
  name : String
  params : List Nat
  deriving DecidableEq

/-- A struct. -/
structure StructDecl (τ : Type) where
  ident : String
  /-- The name in messages. -/
  name : String
  fields : List (StructField τ)
  constructors : List StructConstructor
  deriving DecidableEq

/-! ## The definition of a struct -/

/-- A constructor of a definition: its parameters with their types, and the positions at which it
reads its arguments, with the types it reads them as. -/
structure ConstructorOutline (τ : Type) where
  name : String
  params : List (String × τ)
  arguments : List (τ × Nat)
  deriving DecidableEq

/-- A member of a definition. -/
structure MemberOutline (τ : Type) where
  name : String
  type : τ
  mappedName : Option String
  writable : Bool
  deriving DecidableEq

/-- A definition, as far as a declaration decides it. -/
structure DefinitionOutline (τ : Type) where
  ident : String
  name : String
  constructors : List (ConstructorOutline τ)
  members : List (MemberOutline τ)
  deriving DecidableEq

namespace StructDecl

variable {τ : Type}

/-- The fields a constructor takes, in the order of its parameters. -/
def paramFields (d : StructDecl τ) (c : StructConstructor) : List (StructField τ) :=
  c.params.filterMap (d.fields[·]?)

def constructorOutline (d : StructDecl τ) (c : StructConstructor) : ConstructorOutline τ :=
  let fields := d.paramFields c
  ⟨c.name, fields.map fun f => (f.name, f.type), fields.zipIdx.map fun (f, i) => (f.type, i)⟩

def memberOutline (f : StructField τ) : MemberOutline τ :=
  ⟨f.name, f.type, f.mappedName, !f.readOnly⟩

/-- The definition of a struct: its constructors in the order in which they are listed, its members
in the order of its fields. -/
def definition (d : StructDecl τ) : DefinitionOutline τ where
  ident := d.ident
  name := d.name
  constructors := d.constructors.map d.constructorOutline
  members := (d.fields.filter (!·.skipped)).map memberOutline

end StructDecl

/-! ## Records

An object of a declared struct is kept as a record: one value for each field, in its stored form. -/

/-- The values of the fields, by name. -/
structure Record where
  fields : List (String × Value)
  deriving DecidableEq

namespace Record

/-- The value of a field. -/
def get (r : Record) (name : String) : Value :=
  ((r.fields.find? (·.1 == name)).map Prod.snd).getD .untyped

/-- With the value of a field replaced. -/
def set (r : Record) (name : String) (v : Value) : Record :=
  ⟨r.fields.map fun f => if f.1 == name then (f.1, v) else f⟩

end Record

/-- The record of start values. -/
def StructDecl.startRecord (d : StructDecl NativeType) : Record :=
  ⟨d.fields.map fun f => (f.name, f.type.start)⟩

namespace DefinitionOutline

/-- Reads arguments one after the other. -/
def readArguments : List (NativeType × Nat) → ArgsReader (List Value)
  | [] => return []
  | (t, i) :: rest => do
    let v ← Args.takeStored t i
    return v :: (← readArguments rest)

/-- A constructor over records, given the function of its name. -/
def constructorDef (make : List Value → Record) (c : ConstructorOutline NativeType) :
    ConstructorDef Record where
  name := c.name
  params := c.params.map fun (name, t) => .ofNative name t
  build := Args.feed (do return make (← readArguments c.arguments))

/-- A member over records.  A value is stored in the form of the member's type. -/
def memberDef (m : MemberOutline NativeType) : MemberDef Record where
  name := m.name
  mappedName := m.mappedName
  type := m.type.valueType
  nullable := m.type.nullable
  get := (·.get m.name)
  set := if m.writable then some fun r v => (m.type.store v).map (r.set m.name) else none

/-- The constructor of a default. -/
def defaultConstructor (start : Record) : ConstructorDef Record :=
  ⟨"default", [], fun _ => .ok start⟩

/-- The definition over records, given the default if there is one and the functions. -/
def entity (d : DefinitionOutline NativeType) (start : Option Record)
    (functions : String → List Value → Record) : EntityDef Record where
  name := d.name
  constructors := (start.map defaultConstructor).toList ++
    d.constructors.map fun c => constructorDef (functions c.name) c
  members := d.members.map memberDef

end DefinitionOutline

end RowBinding
