import RowBinding.Derive.Code
import RowBinding.Proofs.DeclaredDefinitions
import RowBinding.Proofs.MirroredStructs
/-!
# What the code of a definition does

The code of a definition is a list of statements, one for the default, one for each constructor and one for each member,
and each of them adds to the definition.  **The code says of the fields what the declaration says, its statements make
the entity, and the declaration mirrors the source** (`Derive.declarationOf_mirrored`), whatever the types mean and
whatever the functions do.
-/
namespace RowBinding

namespace DefinitionOutline

variable {τ : Type}

/-! ## Statements -/

/-- A statement of the code of a definition. -/
inductive Statement (τ : Type) where
  /-- The constructor of the default, if there is one. -/
  | default
  | constructor (c : ConstructorOutline τ)
  | member (m : MemberOutline τ)

/-- The statements in the order in which they stand in the code. -/
def statements (o : DefinitionOutline τ) : List (Statement τ) :=
  .default :: (o.constructors.map .constructor ++ o.members.map .member)

/-- The code of a statement. -/
def Statement.code (ident : String) : Statement (List Derive.Token) → String
  | default => Derive.Code.pieces
      ["if let Some (constructor) = __ConstructorFactory :: < " ++ ident ++ " > :: default_constructor ()",
        Derive.Code.inCurly (Derive.Code.extend "constructor" "constructor")]
  | constructor c => Derive.Code.constructor ident c
  | member m => Derive.Code.member ident m

/-- What a statement adds to a definition, given what the types mean, the default and the functions of the struct. -/
def Statement.perform (meaning : τ → NativeType) (start : Option Record) (functions : String → List Value → Record)
    (e : EntityDef Record) : Statement τ → EntityDef Record
  | default => { e with constructors := e.constructors ++ (start.map defaultConstructor).toList }
  | constructor c =>
    { e with constructors := e.constructors ++ [constructorDef (functions c.name) (c.withTypes meaning)] }
  | member m => { e with members := e.members ++ [memberDef (m.withType meaning)] }

variable (meaning : τ → NativeType) (start : Option Record) (functions : String → List Value → Record)

theorem foldl_perform_constructors (cs : List (ConstructorOutline τ)) (e : EntityDef Record) :
    (cs.map Statement.constructor).foldl (Statement.perform meaning start functions) e = { e with
      constructors := e.constructors ++ cs.map fun c => constructorDef (functions c.name) (c.withTypes meaning) } := by
  induction cs generalizing e with
  | nil => rw [List.map_nil, List.foldl_nil, List.map_nil, List.append_nil]
  | cons c cs ih =>
    rw [List.map_cons, List.foldl_cons, ih, List.map_cons, List.append_cons]
    rfl

theorem foldl_perform_members (ms : List (MemberOutline τ)) (e : EntityDef Record) :
    (ms.map Statement.member).foldl (Statement.perform meaning start functions) e = { e with
      members := e.members ++ ms.map fun m => memberDef (m.withType meaning) } := by
  induction ms generalizing e with
  | nil => rw [List.map_nil, List.foldl_nil, List.map_nil, List.append_nil]
  | cons m ms ih =>
    rw [List.map_cons, List.foldl_cons, ih, List.map_cons, List.append_cons]
    rfl

/-- **The statements make the definition**, beginning with one that has nothing but its name. -/
theorem foldl_perform_statements (o : DefinitionOutline τ) :
    o.statements.foldl (Statement.perform meaning start functions) ⟨o.name, [], []⟩ =
      (o.withTypes meaning).entity start functions := by
  rw [statements, List.foldl_cons, List.foldl_append, foldl_perform_constructors, foldl_perform_members]
  simp only [Statement.perform, entity, withTypes, List.map_map, List.nil_append]
  rfl

end DefinitionOutline

/-! ## Code -/

namespace Derive.Code

/-- The code of a definition that has nothing but its name yet. -/
def beginning (ident name : String) : String :=
  "let mut def = :: rowmap :: EntityDef :: < " ++ ident ++ " > :: new (" ++ Literal.ofText name ++ ") ;"

/-- The code around the body of the function that makes the definition. -/
def implementation (ident body : String) : String :=
  "impl :: rowmap :: Mapped for " ++ ident ++ " " ++
    inCurly ("fn type_def () -> :: rowmap :: TypeDef < Self > " ++ inCurly body)

/-- The code of a definition around its statements. -/
def around (ident name : String) (statements : List String) : String :=
  implementation ident (pieces ([defaultConstructor ident, beginning ident name] ++ statements ++
    [":: rowmap :: TypeDef :: Entity (def)"]))

theorem pieces_cons_cons (a b : String) (rest : List String) :
    pieces (a :: b :: rest) = a ++ " " ++ pieces (b :: rest) :=
  String.intercalate_cons_of_ne_nil (List.cons_ne_nil b rest)

/-- It makes no difference which pieces are put together first. -/
theorem pieces_regroup (a b c d last : String) (items : List String) :
    pieces ([a, pieces [b, c, d]] ++ items ++ [last]) = pieces ([a, b] ++ pieces [c, d] :: items ++ [last]) := by
  obtain ⟨next, rest, hrest⟩ := List.exists_cons_of_ne_nil
    (List.append_ne_nil_of_right_ne_nil items (List.cons_ne_nil last []))
  have hleft : [a, pieces [b, c, d]] ++ items ++ [last] = a :: pieces [b, c, d] :: next :: rest := by
    rw [← hrest, List.append_assoc]
    rfl
  have hright : [a, b] ++ pieces [c, d] :: items ++ [last] = a :: b :: pieces [c, d] :: next :: rest := by
    rw [← hrest, List.append_assoc]
    rfl
  rw [hleft, hright]
  simp only [pieces_cons_cons, String.append_assoc]

theorem statements_code (ident : String) (o : DefinitionOutline (List Token)) : o.statements.map (·.code ident) =
    DefinitionOutline.Statement.code ident .default ::
      (o.constructors.map (constructor ident) ++ o.members.map (member ident)) := by
  rw [DefinitionOutline.statements, List.map_cons, List.map_append, List.map_map, List.map_map]
  rfl

/-- **The code of a definition is the code of its statements**, in order. -/
theorem ofDefinition_eq_around (o : DefinitionOutline (List Token)) :
    ofDefinition o = around o.ident o.name (o.statements.map (·.code o.ident)) := by
  -- What the definition begins with and the statement of the default are one piece there, and two here.
  have hbody : definitionBody o = pieces ([defaultConstructor o.ident, beginning o.ident o.name] ++
      o.statements.map (·.code o.ident) ++ [":: rowmap :: TypeDef :: Entity (def)"]) := by
    rw [definitionBody, List.append_assoc _ (o.constructors.map _) (o.members.map _), statements_code]
    exact pieces_regroup (defaultConstructor o.ident) (beginning o.ident o.name) _ _ _ _
  exact congrArg (implementation o.ident) hbody

/-! ## Code by fields -/

/-- The parameter that is named after a field. -/
def paramOf (f : StructField (List Token)) : String :=
  ":: rowmap :: ParamDef :: of :: < " ++ Token.lineBefore "> (" f.type ++ Literal.ofText f.name ++ ")"

/-- The argument at a position, read as the type of a field. -/
def argumentOf (fp : StructField (List Token) × Nat) : String :=
  "__args__ . take :: < " ++ Token.lineBefore "> (" fp.1.type ++ Numeral.text fp.2 ++ "usize) ?"

def constructorWith (ident name : String) (params arguments : List String) : String :=
  extend "constructor" (":: rowmap :: ConstructorDef :: new (" ++ Literal.ofText name ++ " , vec ! [" ++
    separated params ++ "] , | __args__ | Ok (" ++ ident ++ " :: " ++ name ++ " (" ++ separated arguments ++ ")) ,)")

def setterOf (ident : String) (f : StructField (List Token)) : String :=
  " . with_setter (| __entity__ : & mut " ++ ident ++ " , __value__ : :: rowmap :: Value | " ++
    inCurly ("__entity__ . " ++ f.name ++ " = < " ++
      Token.lineBefore "as :: rowmap :: AsValue > :: try_from_value (__value__) ? ; Ok (())" f.type) ++ ")"

/-- The member of a field: the field under its own name, perhaps another name in the store, and a setter unless it is
read-only. -/
def memberOf (ident : String) (f : StructField (List Token)) : String :=
  extend "member" (":: rowmap :: MemberDef :: new :: < " ++ Token.lineBefore "> (" f.type ++ Literal.ofText f.name ++
    " , " ++ ("| __entity__ : & " ++ ident ++ " | " ++
      inCurly (":: rowmap :: AsValue :: as_value (:: std :: clone :: Clone :: clone (& __entity__ . " ++ f.name ++
        "))")) ++ ")" ++ f.mappedName.elim "" (fun name => " . mapped (" ++ Literal.ofText name ++ ")") ++
    if f.readOnly then "" else setterOf ident f)

/-- The code declares what the declaration says: the default if there is one, then the constructors in order, each with
the fields it selects, then a member for each field that is not skipped, in order. -/
def Declares (code : String) (d : StructDecl (List Token)) : Prop :=
  ∃ constructors, List.Forall₂ (fun c text => ∃ fields, d.Selects c fields ∧
      text = constructorWith d.ident c.name (fields.map paramOf) (fields.zipIdx.map argumentOf))
    d.constructors constructors ∧
    code = around d.ident d.name (DefinitionOutline.Statement.code d.ident .default ::
      (constructors ++ (d.fields.filter (!·.skipped)).map (memberOf d.ident)))

theorem constructor_eq_constructorWith (d : StructDecl (List Token)) (c : StructConstructor) :
    constructor d.ident (d.constructorOutline c) = constructorWith d.ident c.name ((d.paramFields c).map paramOf)
      ((d.paramFields c).zipIdx.map argumentOf) := by
  have hparams : (d.constructorOutline c).params.map param = (d.paramFields c).map paramOf := by
    rw [StructDecl.constructorOutline, List.map_map]
    rfl
  have harguments : (d.constructorOutline c).arguments.map argument = (d.paramFields c).zipIdx.map argumentOf := by
    rw [StructDecl.constructorOutline, List.map_map]
    rfl
  exact congrArg₂ (constructorWith d.ident c.name) hparams harguments

theorem member_eq_memberOf (ident : String) (f : StructField (List Token)) :
    member ident (StructDecl.memberOutline f) = memberOf ident f := by
  obtain ⟨name, type, mappedName, readOnly, skipped⟩ := f
  -- With or without another name in the store, with or without a setter.
  cases mappedName <;> cases readOnly <;> rfl

/-- **The code says of the fields what the declaration says**, if the parameters are in range. -/
theorem ofDefinition_declares {d : StructDecl (List Token)} (h : d.InRange) :
    Declares (ofDefinition d.definition) d := by
  refine ⟨d.constructors.map fun c => constructor d.ident (d.constructorOutline c), ?_, ?_⟩
  · rw [List.forall₂_map_right_iff, List.forall₂_same]
    exact fun c hc => ⟨_, h.selects hc, constructor_eq_constructorWith d c⟩
  · have hmembers : (d.fields.filter (!·.skipped)).map (memberOf d.ident) =
        ((d.fields.filter (!·.skipped)).map StructDecl.memberOutline).map (member d.ident) := by
      rw [List.map_map]
      exact List.map_congr_left fun f _ => (member_eq_memberOf d.ident f).symm
    have hconstructors : (d.constructors.map fun c => constructor d.ident (d.constructorOutline c)) =
        (d.constructors.map d.constructorOutline).map (constructor d.ident) := by
      rw [List.map_map]
      rfl
    rw [ofDefinition_eq_around, statements_code, hmembers, hconstructors]
    rfl

end Derive.Code

namespace Derive

theorem Mirrors.inRange {s : StructSource} {d : StructDecl (List Token)} (h : Mirrors s d) : d.InRange := by
  intro c hc i hi
  obtain ⟨lists, -, -, hcalls⟩ := h.arguments
  obtain ⟨names, -, params, -, hparams⟩ := exists_of_mem_forall₂ hcalls.flip hc
  obtain ⟨name, -, f, hf, -⟩ := exists_of_mem_forall₂ hparams.flip hi
  exact (List.getElem?_eq_some_iff.1 hf).1

/-- **What is derived mirrors the struct.**  A struct without parameters is accepted exactly if there is a declaration
that mirrors it: a field for each field, in order, and a constructor for each argument that declares one, over all
attributes in order, with the positions of the fields it names.  The definition of that declaration has these
constructors, each with the names and the types of its fields, and reads each argument at its own position as the type
of its field; and it has a member for each field that is not skipped.  So does the code that is written.  It consists of
statements, and these, carried out in order, make the entity, in which the default comes first.  A struct in which a
constructor takes something that is no field is refused. -/
theorem declarationOf_mirrored (s : StructSource) :
    (∀ d, declarationOf s = .ok d ↔ hasParameters s.generics = false ∧ Mirrors s d) ∧
    (∀ d, declarationOf s = .ok d → d.definition.Declares d ∧ Code.Declares (Code.ofDefinition d.definition) d ∧
      Code.ofDefinition d.definition = Code.around d.ident d.name (d.definition.statements.map (·.code d.ident)) ∧
      ∀ (meaning : List Token → NativeType) (start : Option Record) (functions : String → List Value → Record),
        (d.definition.statements.foldl (DefinitionOutline.Statement.perform meaning start functions)
          ⟨d.name, [], []⟩).Declares (d.withTypes meaning) start functions) ∧
    ∀ ts ∈ mappedLists s.attributes, ∀ names,
      .constructor names ∈ (ArgumentList.read StructArgument.read ts).arguments → ∀ name ∈ names.tail,
        (∀ sources, s.body = .named sources → ∀ source ∈ sources, source.name ≠ name) →
          ∃ refusal, declarationOf s = .error refusal := by
  refine ⟨fun d => declarationOf_eq_ok_iff_mirrors, fun d hd => ?_, fun ts hts names hnames name hname hnone => ?_⟩
  · have hrange := (declarationOf_eq_ok_iff_mirrors.1 hd).2.inRange
    refine ⟨hrange.declares, Code.ofDefinition_declares hrange, Code.ofDefinition_eq_around d.definition, ?_⟩
    intro meaning start functions
    have hperformed := DefinitionOutline.foldl_perform_statements meaning start functions d.definition
    rw [← StructDecl.definition_withTypes] at hperformed
    exact hperformed ▸ (hrange.withTypes meaning).entity_declares start functions
  · exact declarationOf_unknownParameter hts hnames hname hnone

end Derive

namespace Sample

open Derive

/-- The attribute `mapped` with these arguments. -/
def mappedWith (arguments : List Token) : AttributeSource :=
  .word "mapped" :: .opening .round :: arguments ++ [.closing .round]

theorem mappedLists_mappedWith (lists : List (List Token)) : mappedLists (lists.map mappedWith) = lists := by
  have hlist : ∀ ts, MappedAttribute.ofSource (mappedWith ts) = .list ts := by
    intro ts
    show MappedAttribute.list (ts ++ [Token.closing .round]).dropLast = _
    rw [List.dropLast_concat]
  rw [mappedLists, List.filterMap_map]
  exact (List.filterMap_congr fun ts _ => by rw [Function.comp_apply, hlist]).trans List.filterMap_some

theorem noneBare_mappedWith (lists : List (List Token)) : NoneBare (lists.map mappedWith) := by
  intro a ha hbare
  obtain ⟨ts, -, rfl⟩ := List.mem_map.1 ha
  cases hbare

/-- The arguments `name = "Order", constructor(of, price, id),` and `constructor(empty)` of two attributes. -/
def receiptLists : List (List Token) :=
  [[.word "name", .sign '=' false, .literal "\"Order\"" (.text "Order"), .sign ',' false, .word "constructor",
      .opening .round, .word "of", .sign ',' false, .word "price", .sign ',' false, .word "id", .closing .round,
      .sign ',' false],
    [.word "constructor", .opening .round, .word "empty", .closing .round]]

/-- The first field is skipped, the second one is read-only, and the third one has another name in the store. -/
def receiptSource : StructSource where
  name := "Receipt"
  generics := []
  attributes := receiptLists.map mappedWith
  body := .named
    [⟨"note", [.word "u8"], [[.word "skip"]].map mappedWith⟩,
      ⟨"id", [.word "u8"], [[.word "read_only"]].map mappedWith⟩,
      ⟨"price", [.word "u8"], [[.word "name", .sign '=' false, .literal "\"p\"" (.text "p")]].map mappedWith⟩]

def receipt : StructDecl (List Token) where
  ident := "Receipt"
  name := "Order"
  fields :=
    [{ StructField.plain "note" (Canonical.ofType [.word "u8"]) with skipped := true },
      { StructField.plain "id" (Canonical.ofType [.word "u8"]) with readOnly := true },
      { StructField.plain "price" (Canonical.ofType [.word "u8"]) with mappedName := some "p" }]
  constructors := [⟨"of", [2, 1]⟩, ⟨"empty", []⟩]

/-- A field with one argument is mirrored by the field that the argument makes of it. -/
theorem fieldMirrors_argument {b : FieldArgument} {ts : List Token} (h : FieldArgument.Written b ts []) (name : String)
    (type : List Token) :
    FieldMirrors ⟨name, type, [ts].map mappedWith⟩ (b.apply (.plain name (Canonical.ofType type))) where
  name := (StructField.foldl_apply_frame _ [b]).1
  type := (StructField.foldl_apply_frame _ [b]).2
  noneBare := noneBare_mappedWith _
  arguments := by
    refine ⟨[[b]], ?_, (StructField.plain_shows name (Canonical.ofType type)).apply b⟩
    rw [mappedLists_mappedWith]
    exact .cons (.inl (.last h)) .nil

theorem listed_receipt : List.Forall₂ (fun ts args => StructArgument.Listed args ts) receiptLists
    [[.name "Order", .constructor ["of", "price", "id"]], [.constructor ["empty"]]] := by
  have hof : NamesWritten ["of", "price", "id"] [.word "of", .sign ',' false, .word "price", .sign ',' false,
      .word "id", .closing .round] :=
    .cons (by decide) false (.cons (by decide) false (.last (by decide) .round))
  have hempty : NamesWritten ["empty"] [.word "empty", .closing .round] := .last (by decide) .round
  have hfirst := ArgumentList.Written.cons false (StructArgument.Written.name false "\"Order\"" "Order")
    (.cons false (.constructor hof) .nil)
  exact .cons hfirst (.cons (.last (.constructor hempty)) .nil)

theorem mirrors_receipt : Mirrors receiptSource receipt where
  ident := rfl
  fields := ⟨_, rfl, .cons (fieldMirrors_argument (.skip not_goesOn_nil) _ _)
    (.cons (fieldMirrors_argument (.readOnly not_goesOn_nil) _ _)
      (.cons (fieldMirrors_argument (.name false _ _) _ _) .nil))⟩
  noneBare := noneBare_mappedWith receiptLists
  arguments := by
    refine ⟨_, (mappedLists_mappedWith receiptLists).symm ▸ listed_receipt, rfl, ?_⟩
    have hprice : FieldAt receipt.fields "price" 2 := paramPosition_eq_ok_iff.1 rfl
    have hid : FieldAt receipt.fields "id" 1 := paramPosition_eq_ok_iff.1 rfl
    exact .cons ⟨_, rfl, .cons hprice (.cons hid .nil)⟩ (.cons ⟨_, rfl, .nil⟩ .nil)

/-- The arguments `constructor(of, cost)`. -/
def strayList : List Token :=
  [.word "constructor", .opening .round, .word "of", .sign ',' false, .word "cost", .closing .round]

theorem listed_stray : StructArgument.Listed [.constructor ["of", "cost"]] strayList :=
  .last (.constructor (.cons (by decide) false (.last (by decide) .round)))

theorem declarationOf_mirrored_receipt :
    (declarationOf receiptSource = .ok receipt ∧ receipt.definition.Declares receipt) ∧
    ∃ refusal, declarationOf { receiptSource with attributes := [strayList].map mappedWith } = .error refusal := by
  have hreceipt : declarationOf receiptSource = .ok receipt :=
    ((declarationOf_mirrored receiptSource).1 receipt).2 ⟨rfl, mirrors_receipt⟩
  refine ⟨⟨hreceipt, ((declarationOf_mirrored receiptSource).2.1 receipt hreceipt).1⟩, ?_⟩
  refine (declarationOf_mirrored { receiptSource with attributes := [strayList].map mappedWith }).2.2 strayList ?_
    ["of", "cost"] ?_ "cost" List.mem_cons_self ?_
  · rw [mappedLists_mappedWith]
    exact List.mem_cons_self
  · rw [StructArgument.accepts.read_eq_iff_written.2 listed_stray]
    exact List.mem_cons_self
  · intro sources hsources source hsource
    cases hsources
    simp only [List.mem_cons, List.not_mem_nil, or_false] at hsource
    rcases hsource with rfl | rfl | rfl <;> decide

end Sample

end RowBinding
