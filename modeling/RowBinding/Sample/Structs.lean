import RowBinding.Sample.Objects
/-!
# The sample structs

A customer is filled member by member, an order holds an enumeration and an amount of money, an
account has three constructors and no default, a currency is read-only, and a measurement has the
narrow types that conversions must watch.
-/
namespace RowBinding.Sample

/-! ## Types -/

def int16 : NativeType := .base (.integer .int16)
def int32 : NativeType := .base (.integer .int32)
def int64 : NativeType := .base (.integer .int64)
def uint32 : NativeType := .base (.integer .uint32)
def string : NativeType := .base .string
def decimal : NativeType := .base .decimal

def discriminant (n : Int) : Discriminant := .wrapped .int64 n

/-- The states of an order. -/
def orderStatus : EnumDef :=
  ⟨"OrderStatus", [⟨"Pending", discriminant 1⟩, ⟨"Shipped", discriminant 2⟩,
    ⟨"Cancelled", discriminant 3⟩]⟩

def orderStatusType : BaseType := .enumeration "rowmap_tests::orders::OrderStatus" orderStatus

def customerName : TypeName := "rowmap_tests::customers::Customer"
def orderName : TypeName := "rowmap_tests::orders::Order"
def accountName : TypeName := "rowmap_tests::accounts::Account"
def currencyName : TypeName := "rowmap_tests::accounts::Currency"
def measurementName : TypeName := "rowmap_tests::conversions::Measurement"

/-! ## Declarations -/

def customer : StructDecl NativeType where
  ident := "Customer"
  name := "Customer"
  fields :=
    [.plain "id" int64,
      { StructField.plain "name" string with mappedName := some "customer_name" },
      .plain "email" (.option string),
      .plain "active" (.base .bool),
      .plain "external_id" (.option (.base .uuid)),
      { StructField.plain "segment" string with readOnly := true },
      { StructField.plain "score" (.option (.base (.float .double))) with skipped := true }]
  constructors := []

def order : StructDecl NativeType where
  ident := "Order"
  name := "Order"
  fields :=
    [.plain "id" int64, .plain "customer_id" int64, .plain "status" (.base orderStatusType),
      .plain "quantity" int32, .plain "total" decimal,
      .plain "placed_at" (.option (.base .timestamp))]
  constructors := []

/-- An account remembers in `built_with` which of its constructors made it. -/
def account : StructDecl NativeType where
  ident := "Account"
  name := "Account"
  fields :=
    [.plain "id" int64, .plain "owner" string, .plain "balance" decimal,
      .plain "note" (.option string),
      { StructField.plain "built_with" string with skipped := true }]
  constructors := [⟨"empty", []⟩, ⟨"with_id", [0]⟩, ⟨"new", [0, 1, 2]⟩]

def currency : StructDecl NativeType where
  ident := "Currency"
  name := "Currency"
  fields := [{ StructField.plain "code" string with readOnly := true }]
  constructors := [⟨"new", [0]⟩]

def measurement : StructDecl NativeType where
  ident := "Measurement"
  name := "Measurement"
  fields :=
    [.plain "sensor" int16, .plain "reading" int32, .plain "ratio" (.base (.float .single)),
      .plain "taken_on" (.option (.base .date)), .plain "label" string]
  constructors := []

/-! ## Functions and definitions -/

/-- The record of start values with the first fields replaced by arguments. -/
def startWith (d : StructDecl NativeType) (arguments : List Value) : Record :=
  ⟨(d.startRecord.fields.zipIdx).map fun (f, i) => (f.1, arguments[i]?.getD f.2)⟩

/-- A new account, and how it was made. -/
def makeAccount (function : String) (arguments : List Value) : Record :=
  (startWith account arguments).set "built_with" (.varchar function)

def makeCurrency (_function : String) (arguments : List Value) : Record :=
  startWith currency arguments

/-- The functions of a struct without any. -/
def noFunctions (_function : String) (_arguments : List Value) : Record := ⟨[]⟩

/-- The definition of a struct with a default and no functions. -/
def withDefault (d : StructDecl NativeType) : EntityDef Record :=
  d.definition.entity (some d.startRecord) noFunctions

/-- The sample types, and the scalars that are read along with them. -/
def types : List TypeEntry :=
  [structType customerName (withDefault customer),
    structType orderName (withDefault order),
    structType accountName (account.definition.entity none makeAccount),
    structType currencyName (currency.definition.entity none makeCurrency),
    structType measurementName (withDefault measurement),
    scalarType int64, scalarType uint32, scalarType (.option string)]

end RowBinding.Sample
