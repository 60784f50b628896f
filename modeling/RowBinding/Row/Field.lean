import RowBinding.Value.Type
/-!
# Fields

A field is a column of a row, or a column of the table that parameters are meant for.  It is known
by its **label**, which is the alias it was selected under or else its own name, and two fields are
the same column to the library when their labels are the same name and their types are equal.
-/
namespace RowBinding

/-- A column. -/
structure Field where
  name : String
  aliasName : Option String
  type : ValueType
  nullable : Bool
  /-- The position in the row or the table. -/
  ordinal : Nat
  isPrimary : Bool
  isIdentity : Bool
  deriving DecidableEq

namespace Field

/-- A nullable column of a name and a type. -/
def column (name : String) (type : ValueType) : Field :=
  ⟨name, none, type, true, 0, false, false⟩

def withAlias (f : Field) (name : String) : Field := { f with aliasName := some name }

def notNull (f : Field) : Field := { f with nullable := false }

/-- A primary field takes no NULL. -/
def primary (f : Field) : Field := { f with isPrimary := true, nullable := false }

/-- An identity field takes no NULL. -/
def identity (f : Field) : Field := { f with isIdentity := true, nullable := false }

/-- The name the field is found by. -/
def label (f : Field) : String := f.aliasName.getD f.name

/-- Whether the field is found by a name. -/
def isNamed (f : Field) (name : String) : Bool := Text.sameName f.label name

/-- Whether two fields are the same column. -/
def sameColumn (f g : Field) : Bool := f.isNamed g.label && f.type == g.type

/-- The field shown as data. -/
def outline (f : Field) : String :=
  Text.Outline.record "FieldDescriptor"
    [("name", Text.quoted f.name),
      ("alias", Text.Outline.option (f.aliasName.map Text.quoted)),
      ("value_type", f.type.outline),
      ("nullable", Text.Outline.bool f.nullable),
      ("ordinal", Numeral.text f.ordinal),
      ("is_primary", Text.Outline.bool f.isPrimary),
      ("is_identity", Text.Outline.bool f.isIdentity)]

/-- Fields as a row has them: the ordinals are the positions. -/
def arranged (fields : List Field) : List Field :=
  fields.zipIdx.map fun (f, i) => { f with ordinal := i }

/-- The position of the first field found by a name. -/
def positionOf? (fields : List Field) (name : String) : Option Nat :=
  fields.findIdx? (·.isNamed name)

/-- The key of a table: its first primary field, or else its first identity field. -/
def key? (fields : List Field) : Option Field :=
  (fields.find? (·.isPrimary)).or (fields.find? (·.isIdentity))

end Field

end RowBinding
