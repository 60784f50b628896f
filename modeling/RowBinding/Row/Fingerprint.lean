import RowBinding.Row.Field
import RowBinding.Text.Joined
/-!
# Fingerprints of shapes

A compiled routine is found again by a fingerprint: its target type, the type whose values it
reads, its direction, and the labels and types of the fields in order.  Labels count without their
case, and what a field has besides label and type does not count at all.

Types are known by their full names: two types are the same exactly when their names are.
-/
namespace RowBinding

/-- The full name of a type. -/
abbrev TypeName := String

/-- The two directions in which values move. -/
inductive Direction where
  | rowToObject
  | objectToParameters
  deriving DecidableEq, Repr

def Direction.text : Direction → String
  | rowToObject => "row to object"
  | objectToParameters => "object to parameters"

def Direction.outline : Direction → String
  | rowToObject => "RowToObject"
  | objectToParameters => "ObjectToParameters"

/-- The key of a compiled routine. -/
structure Fingerprint where
  target : TypeName
  /-- The entity type the parameters are read through; rows have none. -/
  source : Option TypeName
  direction : Direction
  fields : List Field
  deriving DecidableEq

namespace Fingerprint

/-- The key of the routine that reads rows of these fields into a type. -/
def rowToObject (target : TypeName) (fields : List Field) : Fingerprint :=
  ⟨target, none, .rowToObject, fields⟩

/-- The key of the routine that reads a type into parameters for these fields. -/
def objectToParameters (target source : TypeName) (fields : List Field) : Fingerprint :=
  ⟨target, some source, .objectToParameters, fields⟩

/-- Whether two field lists are the same columns in the same order. -/
def sameFields (fs gs : List Field) : Bool :=
  fs.length == gs.length && (fs.zip gs).all fun (f, g) => f.sameColumn g

/-- Whether two keys share a routine. -/
def same (a b : Fingerprint) : Bool :=
  a.target == b.target && a.source == b.source && a.direction == b.direction &&
    sameFields a.fields b.fields

/-- The labels and types of the fields. -/
def shape (p : Fingerprint) : String :=
  Text.appendSeparated (fun out (f : Field) => out ++ f.label ++ ": " ++ f.type.text) ", " "("
    p.fields ++ ")"

def text (p : Fingerprint) : String :=
  "`" ++ p.target ++ "` " ++ p.shape ++ " (" ++ p.direction.text ++ ")"

/-- A type shown as data: its identity has no shape of its own. -/
def typeOutline : String := Text.Outline.tagged "TypeId" ["_"]

/-- The fingerprint shown as data. -/
def outline (p : Fingerprint) : String :=
  Text.Outline.record "ShapeFingerprint"
    [("target", typeOutline),
      ("target_name", Text.quoted p.target),
      ("source", Text.Outline.option (p.source.map fun _ => typeOutline)),
      ("direction", p.direction.outline),
      ("fields", Text.Outline.list (p.fields.map Field.outline))]

/-! ## Hashing

A key is hashed by writing it piece by piece.  Equal keys must write the same pieces, and keys
that differ should not: a byte that no text contains ends each text, and a list tells its length
first. -/

/-- One piece written to a hasher. -/
inductive HashWrite where
  | typeName (name : TypeName)
  /-- Which of its alternatives a value is. -/
  | alternative (index : Nat)
  | size (n : Nat)
  | byte (b : UInt8)
  | bytes (bs : List UInt8)
  | number (n : Int)
  deriving DecidableEq

/-- The byte after a text. -/
def endOfText : UInt8 := 0xff

/-- A text and its end. -/
def writeText (s : String) : List HashWrite := [.bytes (Text.utf8 s), .byte endOfText]

def writeOption {α : Type} (write : α → List HashWrite) : Option α → List HashWrite
  | none => [.alternative 0]
  | some a => .alternative 1 :: write a

def writeDirection : Direction → List HashWrite
  | .rowToObject => [.alternative 0]
  | .objectToParameters => [.alternative 1]

def writeEnum (e : EnumDef) : List HashWrite :=
  writeText e.name ++ .size e.variants.length ::
    e.variants.flatMap fun v => writeText v.name ++ [.number v.discriminant.toInt]

/-- The position of a plain type among the types; enumerations come last. -/
def typeIndex (t : ValueType) : Nat := ValueType.plain.findIdx (· == t)

def writeType : ValueType → List HashWrite
  | .enumeration e => .alternative ValueType.plain.length :: writeEnum e
  | t => [.alternative (typeIndex t)]

/-- A label without its case, byte by byte, and its end. -/
def writeLabel (label : String) : List HashWrite :=
  ((Text.folded label).flatMap String.utf8EncodeChar).map HashWrite.byte ++ [.byte endOfText]

def writeField (f : Field) : List HashWrite := writeLabel f.label ++ writeType f.type

/-- The pieces of a key. -/
def hashWrites (p : Fingerprint) : List HashWrite :=
  .typeName p.target :: writeOption (fun s => [.typeName s]) p.source ++
    writeDirection p.direction ++ .size p.fields.length :: p.fields.flatMap writeField

/-- The keys among these that differ from all before them. -/
def distinct (ps : List Fingerprint) : List Fingerprint :=
  ps.foldl (fun seen p => if seen.any (same p) then seen else seen ++ [p]) []

end Fingerprint

end RowBinding
