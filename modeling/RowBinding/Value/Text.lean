import RowBinding.Value.Basic
import RowBinding.Number.BinaryText
import RowBinding.Calendar.Text
/-!
# Values as text

A value has two written forms.  Its text is what a text column receives; its outline shows the
value with its type, the way messages quote it.
-/
namespace RowBinding

namespace Datum

/-- The datum as the content of a text column. -/
def text : Datum → String
  | boolean b => Text.Outline.bool b
  | integer _ n => Numeral.text n.toInt
  | float _ x => x.text
  | decimal x => x.text
  | varchar s => s
  | blob bytes => Text.hex bytes
  | date d => d.text
  | time t => t.text
  | timestamp t => t.text
  | offsetTimestamp t => t.text
  | uuid u => u.text
  | enumeration e n => (e.nameOf? n.toInt).getD (Numeral.text n.toInt)

/-- The content of a datum shown as data. -/
def content : Datum → String
  | float _ x => x.outline
  | varchar s => Text.quoted s
  | blob bytes => Text.Outline.list (bytes.map fun b => Numeral.text b.toNat)
  | enumeration _ n => Numeral.text n.toInt
  | d => d.text

end Datum

namespace Value

/-- The value as text, `NULL` for every NULL. -/
def display : Value → String
  | datum d => d.text
  | _ => "NULL"

/-- A type with the content of its value, and for an enumeration also its definition. -/
def outlineOf (t : ValueType) (content : Option String) : String :=
  match t with
  | .enumeration e => Text.Outline.tagged t.tag [Text.Outline.option content, e.outline]
  | _ => Text.Outline.tagged t.tag [Text.Outline.option content]

/-- The value shown as data. -/
def outline : Value → String
  | untyped => "Null"
  | null t => outlineOf t none
  | datum d => outlineOf d.type (some d.content)

end Value

end RowBinding
