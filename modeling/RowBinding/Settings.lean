import RowBinding.Failure
import RowBinding.Log
/-!
# Settings

The settings of a mapper are its conversion mode and the storage type of enumerations.  Both start
from a default that the environment may replace; **a setting that cannot be read is reported and
ignored**, it never stops the program.
-/
namespace RowBinding

/-- How a value is adapted when the types of field and member differ. -/
inductive ConversionMode where
  /-- Plain casts: a number that does not fit is reduced. -/
  | plain
  /-- Checked conversions: a number that does not fit fails. -/
  | automatic
  deriving DecidableEq, Repr

namespace ConversionMode

def text : ConversionMode → String
  | plain => "default"
  | automatic => "automatic"

/-- The mode of a name, blanks around it aside. -/
def read (text : String) : Result ConversionMode :=
  let trimmed := String.ofList (Text.trimmed text)
  if Text.sameName trimmed "default" then .ok plain
  else if Text.sameName trimmed "automatic" then .ok automatic
  else .error (.unknownConversionMode trimmed)

end ConversionMode

/-- The storage type of a name. -/
def StorageType.read (text : String) : Result StorageType :=
  match StorageType.ofName? text with
  | some s => .ok s
  | none => .error (.unknownStorageType text)

/-- The settings of a mapper. -/
structure Settings where
  mode : ConversionMode := .plain
  /-- The storage type of enumerations for which no rule gives another. -/
  enumStorage : StorageType := .string
  deriving DecidableEq, Repr

instance : Inhabited Settings := ⟨{}⟩

namespace Settings

/-- The names under which the environment holds the settings. -/
def modeVariable : String := "ROWMAP_CONVERSION_MODE"
def enumStorageVariable : String := "ROWMAP_ENUM_STORAGE_TYPE"

/-- The settings with one of them replaced by the text of a variable, if that is set.  A text that
cannot be read leaves them alone and is reported. -/
def override {α : Type} (name : String) (read : String → Result α)
    (replace : α → Settings → Settings) (text? : Option String) (s : Settings) :
    Settings × List LogRecord :=
  match text? with
  | none => (s, [])
  | some text =>
    match read text with
    | .ok a => (replace a s, [])
    | .error e => (s, [⟨.warn, "Ignoring " ++ name ++ ": " ++ e.message⟩])

/-- The settings that an environment gives by the texts of its two variables. -/
def ofEnvironment (mode? enumStorage? : Option String) : Settings × List LogRecord :=
  let (s, first) :=
    override modeVariable ConversionMode.read (fun m s => { s with mode := m }) mode? {}
  let (s, second) :=
    override enumStorageVariable StorageType.read (fun t s => { s with enumStorage := t })
      enumStorage? s
  (s, first ++ second)

end Settings

end RowBinding
