import RowBinding.Derive.Canonical.Items
import RowBinding.Derive.Canonical.Reading
/-!
# Types in their canonical form

The type of a field is written down by what it says and not by how it was typed: the signs of an
operator together and all others apart, the lifetimes among arguments first.  What a macro is given
is no type yet, and some forms are no settled part of the language, so these stay as they are.

Reading never fails.  **What does not belong to a type follows as it was.**
-/
namespace RowBinding.Derive.Canonical

/-- How a part is read, as the next tokens tell. -/
inductive Step where
  /-- At once. -/
  | read (r : Reading)
  /-- By reading these parts one after the other. -/
  | parts (parts : List Part)
  | list (each : Part) (closer : Closer)
  | arranged (each : Part)
  | formed (part : Part)
  | castType

namespace Step

def taken (p : List Token × List Token) : Step := .read (.ofTaken p)

/-- How a part is read when these tokens come next. -/
def of (ts : List Token) : Part → Step
  | .token => .taken (takeOne ts)
  | .operator signs => .taken (takeOperator signs ts)
  | .dropped n => .taken ([], ts.drop n)
  | .added tokens => .taken (tokens, ts)
  | .positions => .taken (takePositions ts)
  | .threePoints => .taken (closedRange, ts.drop 3)
  | .enclosed => .taken (takeEnclosed ts)
  | .perhaps word => .taken (takeIf (atWord word ts) ts)
  | .perhapsLifetime => .taken (takeIf (atLifetime ts) ts)
  | .perhapsLiteral => .taken (takeIf (atLiteral ts) ts)
  | .perhapsSign c => .taken (takeIf (spells [c] ts) ts)
  | .manner m => .read ⟨[], ts, m⟩
  | .after c part => .parts (if atSign c ts then [.token, part] else [])
  | .list each closer => .list each closer
  | .arranged each => .arranged each
  | .formed part => .formed part
  | .castType => .castType
  | .type plus => .parts (typeParts plus ts)
  | .object plus => .parts (objectParts plus)
  | .bounds plus => .parts (boundsParts plus)
  | .moreBounds plus => .parts (moreBoundsParts plus ts)
  | .bound => .parts (boundParts ts)
  | .ownBounds => .parts (ownBoundsParts ts)
  | .signature => .parts (signatureParts ts)
  | .parameter => .parts (parameterParts ts)
  | .selfParameter => .parts selfParameterParts
  | .typeOrPoints => .parts (typeOrPointsParts ts)
  | .result plus => .parts (resultParts plus ts)
  | .path inType => .parts (pathParts inType ts)
  | .trait => .parts (traitParts ts)
  | .segment inType => .parts (segmentParts inType ts)
  | .segmentArguments inType => .parts (segmentArgumentsParts inType ts)
  | .moreSegments inType => .parts (moreSegmentsParts inType ts)
  | .arguments => .parts argumentsParts
  | .argument => .parts (argumentParts ts)
  | .generic => .parts (genericParts ts)
  | .invocation => .parts (invocationParts ts)
  | .attribute => .parts (attributeParts ts)
  | .attributeBody => .parts (attributeBodyParts ts)
  | .attributes => .parts (attributesParts ts)
  | .pattern => .parts (patternParts ts)
  | .alternatives => .parts (alternativesParts ts)
  | .single marked => .parts (singleParts marked ts)
  | .namedPattern marked => .parts (namedPatternParts marked ts)
  | .rangePattern marked => .parts (rangePatternParts marked ts)
  | .patternBound => .parts (patternBoundParts ts)
  | .untyped => .parts (untypedParts ts)
  | .boxed => .parts boxedParts
  | .patternField => .parts (patternFieldParts ts)
  | .expression structs => .parts (expressionParts structs)
  | .casted structs => .parts (castedParts structs)
  | .operand structs => .parts (operandParts structs ts)
  | .keptOperand => .parts (keptOperandParts ts)
  | .named structs => .parts (namedParts structs ts)
  | .trailers => .parts (trailersParts ts)
  | .casts => .parts (castsParts ts)
  | .operators structs marked => .parts (operatorsParts structs marked ts)
  | .rangeEnd inclusive structs => .parts (rangeEndParts inclusive structs ts)
  | .jumpValue blocks => .parts (jumpValueParts blocks ts)
  | .address => .parts (addressParts ts)
  | .member => .parts (memberParts ts)
  | .field => .parts (fieldParts ts)
  | .closureParameter => .parts (closureParameterParts ts)
  | .otherwise => .parts (otherwiseParts ts)
  | .arm => .parts (armParts ts)
  | .armBody => .parts (armBodyParts ts)
  | .guard => .parts (guardParts ts)
  | .block => .parts (blockParts ts)
  | .statement => .parts (statementParts ts)
  | .action marked => .parts (actionParts marked ts)
  | .afterBlock marked => .parts (afterBlockParts marked ts)
  | .members place => .parts (membersParts place ts)
  | .memberItem place => .parts (memberItemParts place ts)
  | .item place => .parts (itemParts place ts)
  | .qualifiers => .parts (qualifiersParts ts)
  | .functionEnd place => .parts (functionEndParts place ts)
  | .visibility => .parts (visibilityParts ts)
  | .generics => .parts (genericsParts ts)
  | .ownGenerics => .parts (ownGenericsParts ts)
  | .conditions => .parts (conditionsParts ts)
  | .condition => .parts conditionParts
  | .functionParameter => .parts (functionParameterParts ts)
  | .fields => .parts (fieldsParts ts)
  | .fieldDeclaration => .parts (fieldDeclarationParts ts)
  | .innerFields => .parts innerFieldsParts
  | .positionalField => .parts (positionalFieldParts ts)
  | .variant => .parts (variantParts ts)
  | .disposition => .parts (dispositionParts ts)
  | .implemented => .parts (implementedParts ts)
  | .implementedRest => .parts (implementedRestParts ts)
  | .implementing proper => .parts (implementingParts proper ts)
  | .value place => .parts (valueParts place ts)
  | .constantConditions => .parts (constantConditionsParts ts)
  | .variable place => .parts (variableParts place ts)
  | .typeBounds place => .parts (typeBoundsParts place ts)
  | .definition place => .parts (definitionParts place ts)
  | .traitBody => .parts (traitBodyParts ts)
  | .imported grouped => .parts (importedParts grouped ts)
  | .macroName => .parts (macroNameParts ts)

end Step

/-- Reads a part.  The depth bounds how far parts lie inside of one another. -/
def readPart : (depth : Nat) → Part → List Token → Reading
  | 0, _, ts => .nothing ts
  | depth + 1, part, ts =>
    match Step.of ts part with
    | .read r => r
    | .parts parts => parts.foldl (fun r p => r.followed (readPart depth p)) (.nothing ts)
    | .list each closer => readList (readPart depth each) closer (ts.length + 1) ts
    | .arranged each => readArranged (readPart depth each) ts
    | .formed form => (readPart depth form ts).formed ts
    | .castType => (readPart depth (.type false) ts).ofCastType

/-- The canonical form of a type.  No token opens more than sixty parts inside of one another. -/
def ofType (ts : List Token) : List Token :=
  let r := readPart (64 * (ts.length + 1)) (.type true) ts
  r.written ++ r.rest

end RowBinding.Derive.Canonical
