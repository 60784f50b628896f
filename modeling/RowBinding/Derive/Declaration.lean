import RowBinding.Derive.Struct
import RowBinding.Derive.Argument
import RowBinding.Derive.Canonical
import RowBinding.Derive.Lexer
/-!
# Declarations from source

The source of a struct becomes a declaration.  Attributes named `mapped` say how its fields are
mapped and by which functions it is constructed; other attributes mean nothing here.

A struct is refused for its generic parameters first, then for fields without names, then for the
attributes of its fields in order, then for its own.  **On a field, an argument list that is
malformed only loses what comes after the fault; on the struct it refuses the struct.**
-/
namespace RowBinding.Derive

/-- Why a struct is refused. -/
inductive Refusal where
  | generic
  | unnamedFields
  /-- The attribute of a field has no list of arguments. -/
  | fieldUse
  | fieldName
  | fieldUnknown (path : ArgumentPath)
  /-- The attribute of the struct has no list of arguments. -/
  | structUse
  | structName
  | structUnknown (path : ArgumentPath)
  | structFault (f : SyntaxFault)
  deriving DecidableEq, Repr

/-- The way to write a field's name in the store. -/
def fieldUsage : String := "use it like: `#[mapped(name = \"column\")]`"

def Refusal.message : Refusal → String
  | generic => "Mapped cannot be derived for generic structs"
  | unnamedFields => "Mapped can only be derived for structs with named fields"
  | fieldUse => "Error while parsing `mapped`, " ++ fieldUsage
  | fieldName => "Error while parsing `name`, " ++ fieldUsage
  | fieldUnknown path => "Unknown attribute `" ++ path.text ++ "` inside mapped field attribute"
  | structUse => "Error while parsing `mapped`, use it like: `#[mapped(attribute = value, ..)]`"
  | structName => "Error while parsing `name`, use it like: `#[mapped(name = \"Order\")]`"
  | structUnknown path => "Unknown attribute `" ++ path.text ++ "` inside mapped macro"
  | structFault f =>
    "Error while parsing `mapped`: " ++ f.message ++
      ", declare constructors like: `#[mapped(constructor(new, field_a, field_b))]`"

/-! ## Source -/

/-- The tokens of an attribute, without the brackets around it. -/
abbrev AttributeSource := List Token

structure FieldSource where
  name : String
  type : List Token
  attributes : List AttributeSource
  deriving DecidableEq

inductive StructBody where
  | named (fields : List FieldSource)
  | tuple
  | unit
  deriving DecidableEq

structure StructSource where
  name : String
  /-- What stands after the name. -/
  generics : List Token
  attributes : List AttributeSource
  body : StructBody
  deriving DecidableEq

/-- Whether there are parameters between the angle brackets. -/
def hasParameters : (generics : List Token) → Bool
  | .sign '<' _ :: .sign '>' _ :: _ => false
  | .sign '<' _ :: _ => true
  | _ => false

/-- An attribute as far as mappings go. -/
inductive MappedAttribute where
  /-- It is not named `mapped`. -/
  | foreign
  /-- It is, but has no list of arguments. -/
  | bare
  | list (arguments : List Token)
  deriving DecidableEq

def MappedAttribute.ofSource : AttributeSource → MappedAttribute
  | .word "mapped" :: .sign ':' _ :: _ => .foreign
  | .word "mapped" :: .opening _ :: rest => .list rest.dropLast
  | .word "mapped" :: _ => .bare
  | _ => .foreign

/-! ## Fields -/

/-- An argument on a field. -/
inductive FieldArgument where
  | name (text : String)
  | readOnly
  | skip
  deriving DecidableEq, Repr

namespace FieldArgument

def read : ArgumentList.Reader FieldArgument := fun path ts =>
  if path.isWord "name" then do
    let (text, rest) ← readText ts
    return (name text, rest)
  else if path.isWord "read_only" then .ok (readOnly, ts)
  else if path.isWord "skip" then .ok (skip, ts)
  else .error (.unknown path)

/-- A field as an argument changes it. -/
def apply {τ : Type} (f : StructField τ) : FieldArgument → StructField τ
  | name text => { f with mappedName := some text }
  | readOnly => { f with readOnly := true }
  | skip => { f with skipped := true }

end FieldArgument

/-- What it means for a field that the arguments stop early. -/
def fieldRefusal : Stop → Option Refusal
  | .unknown path => some (.fieldUnknown path)
  | .badName => some .fieldName
  | .fault _ => none

/-- A field as an attribute changes it. -/
def applyToField {τ : Type} (f : StructField τ) (a : AttributeSource) :
    Except Refusal (StructField τ) :=
  match MappedAttribute.ofSource a with
  | .foreign => .ok f
  | .bare => .error .fieldUse
  | .list ts =>
    let l := ArgumentList.read FieldArgument.read ts
    match l.stop.bind fieldRefusal with
    | some refusal => .error refusal
    | none => .ok (l.arguments.foldl FieldArgument.apply f)

/-- The field of a source, with the canonical form of its type. -/
def fieldOf (s : FieldSource) : Except Refusal (StructField (List Token)) :=
  s.attributes.foldlM applyToField (.plain s.name (Canonical.ofType s.type))

/-! ## Structs -/

/-- An argument on a struct. -/
inductive StructArgument where
  | name (text : String)
  /-- The function comes first, then the fields it takes. -/
  | constructor (names : List String)
  deriving DecidableEq, Repr

namespace StructArgument

def read : ArgumentList.Reader StructArgument := fun path ts =>
  if path.isWord "name" then do
    let (text, rest) ← readText ts
    return (name text, rest)
  else if path.isWord "constructor" then do
    let (names, rest) ← readNameList ts
    return (constructor names, rest)
  else .error (.unknown path)

end StructArgument

variable {τ : Type}

/-- The position of the field that a parameter names. -/
def paramPosition (fields : List (StructField τ)) (name : String) : Except SyntaxFault Nat :=
  match fields.findIdx? (·.name == name) with
  | some i => .ok i
  | none => .error (.unknownParameter name)

/-- The constructor that an argument declares. -/
def constructorOf (fields : List (StructField τ)) :
    List String → Except SyntaxFault StructConstructor
  | [] => .error .noFunction
  | function :: params => do return ⟨function, ← params.mapM (paramPosition fields)⟩

/-- A declaration as an argument changes it. -/
def applyArgument (d : StructDecl τ) : StructArgument → Except Refusal (StructDecl τ)
  | .name text => .ok { d with name := text }
  | .constructor names => do
    let c ← (constructorOf d.fields names).mapError Refusal.structFault
    return { d with constructors := d.constructors ++ [c] }

/-- What it means for a struct that the arguments stop early. -/
def structRefusal : Stop → Refusal
  | .unknown path => .structUnknown path
  | .badName => .structName
  | .fault f => .structFault f

/-- A declaration as an attribute changes it. -/
def applyAttribute (d : StructDecl τ) (a : AttributeSource) : Except Refusal (StructDecl τ) :=
  match MappedAttribute.ofSource a with
  | .foreign => .ok d
  | .bare => .error .structUse
  | .list ts => do
    let l := ArgumentList.read StructArgument.read ts
    let d ← l.arguments.foldlM applyArgument d
    match l.stop with
    | some stop => throw (structRefusal stop)
    | none => return d

/-- The declaration of a source. -/
def declarationOf (s : StructSource) : Except Refusal (StructDecl (List Token)) :=
  if hasParameters s.generics then .error .generic
  else
    match s.body with
    | .tuple | .unit => .error .unnamedFields
    | .named sources => do
      let fields ← sources.mapM fieldOf
      s.attributes.foldlM applyAttribute ⟨s.name, s.name, fields, []⟩

/-- The tokens of a text. -/
def tokensOf (text : String) : List Token := Lexer.tokens text.toList

/-- The tokens of the type of a field.  A comma stands behind it, which a sign at its end is joined
to. -/
def typeTokensOf (text : String) : List Token :=
  let ts := tokensOf (text ++ ",")
  if ts.getLast?.any (·.isSign ',') then ts.dropLast else ts

end RowBinding.Derive
