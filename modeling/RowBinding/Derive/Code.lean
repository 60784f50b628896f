import RowBinding.Derive.Struct
import RowBinding.Derive.Literal
import RowBinding.Derive.Token
/-!
# The code of a definition

The definition of a struct is written as code on one line: tokens with single spaces between them.
The code declares the default constructor first, if the struct has a default, then the constructors
in order, then the members.  **What the code says is what the definition says**; nothing is added
and nothing is left out.  A type that ends with a sign may be joined to the code behind it.
-/
namespace RowBinding.Derive.Code

/-- Pieces of code one after the other. -/
def pieces (items : List String) : String := Text.joined " " items

/-- Items separated by commas. -/
def separated (items : List String) : String := Text.joined " , " items

def inCurly (content : String) : String := "\x7b " ++ content ++ " \x7d"

/-- A statement that extends the definition. -/
def extend (method argument : String) : String :=
  "def = def . " ++ method ++ " (" ++ argument ++ ") ;"

/-! ## Constructors -/

/-- The signature of the function that finds out whether there is a default. -/
def defaultSignature (ident : String) : String :=
  "fn default_constructor () -> Option < :: rowmap :: ConstructorDef < " ++ ident ++ " >>"

/-- The default constructor, which exists only where the struct has a default. -/
def defaultConstructor (ident : String) : String :=
  pieces
    ["# [allow (dead_code)] trait __NoDefaultConstructor",
      inCurly (defaultSignature ident ++ " " ++ inCurly "None"),
      "struct __ConstructorFactory < T > (:: std :: marker :: PhantomData < T >) ;",
      "impl < T : Default + Into < " ++ ident ++ " >> __ConstructorFactory < T >",
      inCurly ("# [allow (dead_code)] " ++ defaultSignature ident ++ " " ++
        inCurly ("Some (:: rowmap :: ConstructorDef :: new (\"default\" , Vec :: new () , " ++
          "| _ | Ok (T :: default () . into ()) ,))")),
      "impl < T > __NoDefaultConstructor for __ConstructorFactory < T > \x7b \x7d"]

/-- The statements that begin a definition. -/
def opening (d : DefinitionOutline (List Token)) : String :=
  pieces
    ["let mut def = :: rowmap :: EntityDef :: < " ++ d.ident ++ " > :: new (" ++
        Literal.ofText d.name ++ ") ;",
      "if let Some (constructor) = __ConstructorFactory :: < " ++ d.ident ++
        " > :: default_constructor ()",
      inCurly (extend "constructor" "constructor")]

def param (p : String × List Token) : String :=
  ":: rowmap :: ParamDef :: of :: < " ++ Token.lineBefore "> (" p.2 ++ Literal.ofText p.1 ++ ")"

def argument (a : List Token × Nat) : String :=
  "__args__ . take :: < " ++ Token.lineBefore "> (" a.1 ++ Numeral.text a.2 ++ "usize) ?"

def constructor (ident : String) (c : ConstructorOutline (List Token)) : String :=
  extend "constructor" (":: rowmap :: ConstructorDef :: new (" ++ Literal.ofText c.name ++
    " , vec ! [" ++ separated (c.params.map param) ++ "] , | __args__ | Ok (" ++ ident ++ " :: " ++
    c.name ++ " (" ++ separated (c.arguments.map argument) ++ ")) ,)")

/-! ## Members -/

def getter (ident : String) (m : MemberOutline (List Token)) : String :=
  "| __entity__ : & " ++ ident ++ " | " ++
    inCurly (":: rowmap :: AsValue :: as_value (:: std :: clone :: Clone :: clone (& __entity__ . " ++
      m.name ++ "))")

def setter (ident : String) (m : MemberOutline (List Token)) : String :=
  " . with_setter (| __entity__ : & mut " ++ ident ++ " , __value__ : :: rowmap :: Value | " ++
    inCurly ("__entity__ . " ++ m.name ++ " = < " ++
      Token.lineBefore "as :: rowmap :: AsValue > :: try_from_value (__value__) ? ; Ok (())"
        m.type) ++ ")"

/-- The name in the store, when it is another one. -/
def mappedName (m : MemberOutline (List Token)) : String :=
  match m.mappedName with
  | none => ""
  | some name => " . mapped (" ++ Literal.ofText name ++ ")"

def member (ident : String) (m : MemberOutline (List Token)) : String :=
  extend "member" (":: rowmap :: MemberDef :: new :: < " ++ Token.lineBefore "> (" m.type ++
    Literal.ofText m.name ++ " , " ++ getter ident m ++ ")" ++ mappedName m ++
    (if m.writable then setter ident m else ""))

/-! ## Definitions -/

/-- The body of the function that makes the definition. -/
def definitionBody (d : DefinitionOutline (List Token)) : String :=
  pieces ([defaultConstructor d.ident, opening d] ++ d.constructors.map (constructor d.ident) ++
    d.members.map (member d.ident) ++ [":: rowmap :: TypeDef :: Entity (def)"])

/-- The code of a definition. -/
def ofDefinition (d : DefinitionOutline (List Token)) : String :=
  "impl :: rowmap :: Mapped for " ++ d.ident ++ " " ++
    inCurly ("fn type_def () -> :: rowmap :: TypeDef < Self > " ++ inCurly (definitionBody d))

end RowBinding.Derive.Code
