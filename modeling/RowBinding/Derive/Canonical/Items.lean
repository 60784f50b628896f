import RowBinding.Derive.Canonical.Statements
/-!
# What items consist of

A block may declare items of its own before it comes to its value.  **A list of parameters, bounds
or conditions that is empty is not kept**, and the variants of an enumeration are as visible as it
is, whatever they say.

An item may leave out or add what only items elsewhere may: a function in a block its body, a
constant its value.  Such an item declares nothing, so it is kept as it was.
-/
namespace RowBinding.Derive.Canonical

/-- A mark for what is kept, where it has to be. -/
def keptIf (condition : Bool) : List Part := if condition then [.manner .kept] else []

/-! ## Heads -/

def visibilityParts (ts : List Token) : List Part :=
  if (afterVisibility ts).length < (ts.drop 1).length then [.token, .enclosed] else [.token]

def genericsParts (ts : List Token) : List Part :=
  if !spells ['<'] ts then []
  else if atNoArguments ts then [.dropped 2]
  else [.token, .arranged .generic, .token]

def conditionsParts (ts : List Token) : List Part :=
  if !atWord "where" ts then []
  else if atBody (ts.drop 1) then [.dropped 1]
  else [.token, .list .condition .body]

def conditionParts : List Part := [.type true, .after ':' (.bounds true)]

/-- The head of an item up to its parameters: its word, its name. -/
def headed (parts : List Part) : List Part := .token :: .token :: .generics :: parts

/-! ## Functions -/

/-- Whether a function comes next. -/
def atFunction (place : Place) (ts : List Token) : Bool :=
  let rest := afterWord "async" (afterWord "const" ts)
  let rest :=
    if place = .foreign && atWord "safe" rest then rest.drop 1 else afterWord "unsafe" rest
  if !atWord "extern" rest then atWord "fn" rest
  else atWord "fn" (if atLiteral (rest.drop 1) then rest.drop 2 else rest.drop 1)

def qualifiersParts (ts : List Token) : List Part :=
  if atWord "safe" ts then [.manner .kept, .token, .qualifiers]
  else if (atName ts && !atWord "fn" ts) || atLiteral ts then [.token, .qualifiers]
  else []

def functionParts (place : Place) : List Part :=
  .qualifiers :: headed (enclosing .functionParameter .bracket ++
    [.result true, .conditions, .functionEnd place])

def functionEndParts (place : Place) (ts : List Token) : List Part :=
  if spells [';'] ts then keptIf (place = .block || place = .implementation) ++ [.token]
  else keptIf (place = .foreign) ++ [.block]

/-- Whether the object of a method comes next. -/
def atSelf (ts : List Token) : Bool :=
  let rest := afterWord "mut" ts
  atWord "self" rest && !spells [':', ':'] (rest.drop 1)

/-- Whether the object of a method comes next, taken by reference. -/
def atSelfReference (ts : List Token) : Bool :=
  spells ['&'] ts && atSelf (if atLifetime (ts.drop 1) then ts.drop 2 else ts.drop 1)

/-- A parameter without a name gets the one that means none. -/
def functionParameterParts (ts : List Token) : List Part :=
  if spells ['#'] ts then [.attribute, .functionParameter]
  else if spells ['.', '.', '.'] ts then [.operator 3]
  else if atSelfReference ts then [.token, .perhapsLifetime, .perhaps "mut", .token]
  else if atSelf ts then [.perhaps "mut", .token, .after ':' (.type true)]
  else if atFreeName ts && spells ['<'] (ts.drop 1) then
    [.added [.word "_", .sign ':' false], .type true]
  else [.single false, .after ':' .typeOrPoints]

/-! ## Fields -/

def fieldsParts (ts : List Token) : List Part :=
  if atBracket .curly ts then enclosing .fieldDeclaration .bracket
  else if atBracket .round ts then enclosing .positionalField .bracket
  else []

/-- Whether the fields of a struct or a union come next. -/
def atInnerFields (ts : List Token) : Bool :=
  atWord "struct" ts || (atWord "union" ts && atBracket .curly (ts.drop 1))

def fieldDeclarationParts (ts : List Token) : List Part :=
  if spells ['#'] ts then [.attribute, .fieldDeclaration]
  else if atWord "pub" ts then [.visibility, .fieldDeclaration]
  else if atWord "_" ts && atInnerFields (ts.drop 2) then [.token, .token, .formed .innerFields]
  else [.token, .after ':' (.type true)]

def innerFieldsParts : List Part := [.manner .kept, .token, .fields]

def positionalFieldParts (ts : List Token) : List Part :=
  if spells ['#'] ts then [.attribute, .positionalField]
  else if atWord "pub" ts then [.visibility, .positionalField]
  else [.type true]

def variantParts (ts : List Token) : List Part :=
  if spells ['#'] ts then [.attribute, .variant]
  else if atWord "pub" ts then
    [.dropped (ts.length - (afterVisibility ts).length), .variant]
  else [.token, .fields, .after '=' (.expression true)]

/-! ## Implementations -/

/-- Whether an implementation comes next. -/
def atImplementation (ts : List Token) : Bool :=
  atWord "impl" (afterWord "unsafe" (afterWord "default" ts))

def ownGenericsParts (ts : List Token) : List Part :=
  if opensGenerics ts then [.generics] else []

def dispositionParts (ts : List Token) : List Part :=
  if atWord "const" ts then [.manner .kept, .token, .disposition]
  else if spells ['?'] ts && atWord "const" (ts.drop 1) then
    [.manner .kept, .token, .token, .disposition]
  else if spells ['!'] ts && !atBracket .curly (ts.drop 1) then [.token]
  else []

def implementedParts (ts : List Token) : List Part :=
  let path := (atName ts && !atAnyWord ["dyn", "impl", "fn", "unsafe", "extern", "for", "_"] ts) ||
    spells [':', ':'] ts
  if path then [.path true, .implementedRest] else [.type true, .implementing false]

def implementedRestParts (ts : List Token) : List Part :=
  if atCall ts then [.token, .enclosed, .implementing false]
  else if spells ['+'] ts then [.moreBounds true, .implementing false]
  else [.implementing true]

def implementingParts (proper : Bool) (ts : List Token) : List Part :=
  if atWord "for" ts then keptIf (!proper) ++ [.token, .type true] else []

/-! ## Constants, variables and types -/

def valueParts (place : Place) (ts : List Token) : List Part :=
  if atEquals ts then keptIf (place = .foreign) ++ [.token, .expression true]
  else keptIf (place = .block || place = .implementation)

/-- A constant has no conditions. -/
def constantConditionsParts (ts : List Token) : List Part :=
  keptIf (atWord "where" ts) ++ [.conditions]

/-- A constant has no parameters. -/
def constantParts (place : Place) (ts : List Token) : List Part :=
  keptIf (spells ['<'] (ts.drop 2)) ++
    headed [.after ':' (.type true), .value place, .constantConditions, .perhapsSign ';']

/-- A variable has a type. -/
def variableParts (place : Place) (ts : List Token) : List Part :=
  keptIf (!atColon ts) ++ [.after ':' (.type true), .value place, .perhapsSign ';']

def typeBoundsParts (place : Place) (ts : List Token) : List Part :=
  if place = .trait then [.ownBounds]
  else if atColon ts then [.manner .kept, .token, .bounds true]
  else []

def definitionParts (place : Place) (ts : List Token) : List Part :=
  if atEquals ts then keptIf (place = .foreign) ++ [.token, .type true]
  else keptIf (place = .block || place = .implementation)

/-! ## Items -/

/-- A path with what is imported from it.  Only a path that is imported by itself may begin with
double colons. -/
def importedParts (grouped : Bool) (ts : List Token) : List Part :=
  if atEnd ts || spells [','] ts || spells [';'] ts then []
  else if spells [':', ':'] ts then keptIf grouped ++ [.operator 2, .imported false]
  else if atBracket .curly ts then enclosing (.imported true) .bracket
  else [.token, .imported false]

def membersParts (place : Place) (ts : List Token) : List Part :=
  if atBracket .curly ts then [.token, .list (.memberItem place) .bracket, .token] else []

def memberItemParts (place : Place) (ts : List Token) : List Part :=
  if atInnerAttribute ts then [.attribute] else [.formed (.item place)]

/-- A trait may be short for others. -/
def traitBodyParts (ts : List Token) : List Part :=
  if atEquals ts then [.token, .bounds true, .conditions, .perhapsSign ';']
  else [.ownBounds, .conditions, .members .trait]

def macroNameParts (ts : List Token) : List Part := if atName ts then [.token] else []

/-- A macro, or the call of one. -/
def macroParts (ts : List Token) : List Part :=
  if atWord "macro" ts && atName (ts.drop 1) then
    [.manner .kept, .token, .token, .enclosed] ++
      if atBracket .round (ts.drop 2) then [.enclosed] else []
  else [.path false, .token, .macroName, .enclosed, .perhapsSign ';']

/-- The parts of an item that begins with a word of its own. -/
def namedItemParts (place : Place) (ts : List Token) : List Part :=
  let next := ts.drop 1
  if atAnyWord ["struct", "union"] ts then headed [.conditions, .fields, .conditions]
  else if atWord "enum" ts then headed (.conditions :: enclosing .variant .bracket)
  else if atWord "trait" ts then headed [.traitBody]
  else if atWord "type" ts then
    headed [.typeBounds place, .conditions, .definition place, .conditions, .perhapsSign ';']
  else if atWord "impl" ts then
    [.token, .ownGenerics, .disposition, .implemented, .conditions, .members .implementation]
  else if atWord "mod" ts then [.token, .token, .members .block]
  else if atWord "use" ts then [.token, .imported false, .perhapsSign ';']
  else if atWord "extern" ts && atWord "crate" next then
    [.token, .imported false, .perhapsSign ';']
  else if atWord "extern" ts then [.token, .perhapsLiteral, .members .foreign]
  else if atWord "const" ts then constantParts place ts
  else if atWord "static" ts then [.token, .perhaps "mut", .token, .variable place]
  else macroParts ts

/-- Whether a trait or an implementation comes next that is constant. -/
def atConstantTrait (ts : List Token) : Bool :=
  let next := ts.drop 1
  let auto := atWord "auto" next && atWord "trait" (next.drop 1)
  atWord "const" ts && (auto || atAnyWord ["impl", "trait", "unsafe"] next)

def itemParts (place : Place) (ts : List Token) : List Part :=
  let next := ts.drop 1
  if spells ['#'] ts then [.attribute, .item place]
  else if atWord "pub" ts then
    keptIf (place = .trait || atImplementation (afterVisibility ts)) ++ [.visibility, .item place]
  else if atFunction place ts then functionParts place
  else if atWord "default" ts && !spells ['!'] next then
    keptIf (place = .trait) ++ [.token, .item place]
  else if place = .foreign && atAnyWord ["safe", "unsafe"] ts && atWord "static" next then
    [.manner .kept, .token, .item place]
  else if atConstantTrait ts then [.manner .kept, .token, .item place]
  else if atWord "auto" ts && atWord "trait" next then [.token, .item place]
  else if atWord "unsafe" ts then [.token, .item place]
  else namedItemParts place ts

end RowBinding.Derive.Canonical
