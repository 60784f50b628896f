import RowBinding.Sample.Customers
import RowBinding.Sample.Accounts
import RowBinding.Sample.Tables
import RowBinding.Sample.Measurements
/-!
# All the sample runs

The runs by name, and all of them one after the other.
-/
namespace RowBinding.Sample

/-- Every run on a mapper of its own. -/
def all : Run Unit := do
  onFresh {} customers
  onFresh {} accounts
  onFresh {} orders
  conversions
  onFresh {} tables

/-- The runs by their names. -/
def runs : List (String × Run Unit) :=
  [("customers", customers), ("accounts", accounts), ("orders", orders), ("bulk", tables),
    ("conversions", conversions), ("all", all)]

def run? (name : String) : Option (Run Unit) := (runs.find? (·.1 == name)).map Prod.snd

end RowBinding.Sample
