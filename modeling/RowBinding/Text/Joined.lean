/-!
# Items joined by a separator

A list is rendered into a text by appending its items one after the other.  **A separator is
written before an item exactly when the item before it appended something.**  So two separators
never meet and none opens the list, while an item that renders to nothing at the very end is
still preceded by its separator.
-/
namespace RowBinding.Text

/-- Appends the items to `out`.  `size` is the length of the text before the previous item: the
separator is due exactly when the text has grown since. -/
def appendSeparatedFrom {α : Type} (append : String → α → String) (separator : String) :
    (size : Nat) → (out : String) → List α → String
  | _, out, [] => out
  | size, out, item :: rest =>
    let opened := if out.utf8ByteSize > size then out ++ separator else out
    appendSeparatedFrom append separator opened.utf8ByteSize (append opened item) rest

/-- Appends the rendered items to `out`, separated. -/
def appendSeparated {α : Type} (append : String → α → String) (separator : String)
    (out : String) (items : List α) : String :=
  appendSeparatedFrom append separator out.utf8ByteSize out items

/-- Texts joined by a separator that stands between any two of them, empty ones included. -/
def joined (separator : String) (items : List String) : String := String.intercalate separator items

end RowBinding.Text
