import RowBinding.Text.Joined
import RowBinding.Text.Quoted
/-!
# Outlines

An outline shows a piece of data by its structure on one line: a record with its name and its
fields, a named tuple, a list.  The rules are few and are stated here once, so that each type only
says of which parts it consists.
-/
namespace RowBinding.Text.Outline

/-- A list between square brackets. -/
def list (items : List String) : String := "[" ++ joined ", " items ++ "]"

/-- Parts between round brackets. -/
def tuple (items : List String) : String := "(" ++ joined ", " items ++ ")"

/-- A name with its parts between round brackets. -/
def tagged (name : String) (items : List String) : String := name ++ tuple items

/-- A record: its name and its fields in curly brackets. -/
def record (name : String) (fields : List (String × String)) : String :=
  name ++ " \x7b " ++ joined ", " (fields.map fun f => f.1 ++ ": " ++ f.2) ++ " \x7d"

/-- A part that may be missing. -/
def option : Option String → String
  | none => "None"
  | some part => tagged "Some" [part]

/-- A truth value. -/
def bool (b : Bool) : String := if b then "true" else "false"

end RowBinding.Text.Outline
