import RowBinding.Sample.Checks
/-!
# A run with measurements

The same rows are read by a mapper that casts and by a mapper that converts.  A number that is too
large is reduced by the one and refused by the other.
-/
namespace RowBinding.Sample

def measurementFields : List Field :=
  Field.arranged
    [longColumn "sensor", longColumn "reading", column "ratio" (.float .double),
      textColumn "taken_on", textColumn "label"]

/-- The values of a measurement as text and wide numbers. -/
def measured (reading : Int) (share takenOn : Value) : List Value :=
  [long 7, long reading, share, takenOn, text "probe"]

/-- A reading that does not fit. -/
def overflowing : List Value := measured 5000000000 (ratio .double 1 4) (.null .varchar)

/-- A cast reduces the number, and does not read text. -/
def castReading : Run Unit := do
  let r ← readRecord measurementName measurementFields overflowing
  requireField r "sensor" (number .int16 7)
  requireField r "reading" (number .int32 5000000000)
  requireField r "ratio" (ratio .single 1 4)
  requireField r "taken_on" (.null .date)
  Job.fails (·.isConversion) (Mapper.read measurementName
    ⟨measurementFields, measured 1 (ratio .double 1 4) (text "2024-05-06")⟩)

def sixthOfMay : Value := date 2024 5 6

/-- A conversion refuses the number, and reads text. -/
def convertedReading : Run Record := do
  Job.fails (·.isConversionOf "reading") (Mapper.read measurementName
    ⟨measurementFields, overflowing⟩)
  let r ← readRecord measurementName measurementFields
    (measured 1000 (ratio .double 1 2) (text "2024-05-06"))
  requireField r "reading" (number .int32 1000)
  requireField r "taken_on" sixthOfMay
  requireField r "label" (text "probe")
  return r

/-- The columns that measurements are stored in. -/
def measurementStore (reading : IntKind) : List Field :=
  Field.arranged [longColumn "sensor", textColumn "taken_on", column "reading" (.integer reading)]

/-- Parameters are converted to the types of the store fields. -/
def convertedParameters (r : Record) : Run Unit := do
  Job.fails (·.isConversion)
    (Mapper.parametersFor measurementName (.record r) (measurementStore .uint8))
  let ps ← bound measurementName r (measurementStore .int64)
  requireParameter ps 0 fun p => p.value.agrees (long 7)
  requireParameter ps 1 fun p => p.value.agrees (text "2024-05-06")
  requireParameter ps 2 fun p => p.value.agrees (long 1000)
  Job.require (ps.length = 5)

/-- Runs on a mapper of its own with the types of this one. -/
def onFresh (s : Settings) (run : Run Unit) : Run Unit :=
  run.onPart (fun m => .ofSettings m.schema s) fun _ m => m

/-- The run with measurements. -/
def conversions : Run Unit := do
  onFresh {} castReading
  onFresh { mode := .automatic } (do convertedParameters (← convertedReading))

end RowBinding.Sample
