import RowBinding.Derive.Canonical.Ahead
import RowBinding.Derive.Canonical.Part
/-!
# What types consist of

Types, the bounds and paths in them, and the arguments of paths.  Where a path names a function,
**empty arguments in front of what the function takes say nothing**: `Fn<>(A)`, `Fn::(A)` and
`Fn(A)` are one type.

Bounds that are constant and objects behind pointers of their own kind are no settled part of the
language.  They are kept as they were.
-/
namespace RowBinding.Derive.Canonical

/-! ## Types -/

/-- Items between two tokens that enclose them. -/
def enclosing (each : Part) (closer : Closer) : List Part := [.token, .list each closer, .token]

/-- The parameters that `for` introduces. -/
def introduced : List Part := .token :: enclosing .generic .angle

/-- The parts of a type that begins with a path. -/
def pathTypeParts (plus : Bool) : List Part := [.path true, .invocation, .moreBounds plus]

/-- The parts of a type that begins with a word. -/
def wordTypeParts (plus : Bool) (ts : List Token) : List Part :=
  if atWord "_" ts then [.token]
  else if atWord "dyn" ts && spells ['*'] (ts.drop 1) then [.formed (.object plus)]
  else if atAnyWord ["impl", "dyn"] ts then [.token, .bounds plus]
  else if atWord "for" ts then introduced ++ [.type plus]
  else if atAnyWord ["fn", "unsafe", "extern"] ts then [.signature]
  else pathTypeParts plus

def typeParts (plus : Bool) (ts : List Token) : List Part :=
  match ts with
  | .opening .round :: _ => enclosing (.type true) .bracket ++ [.moreBounds plus]
  | .opening .square :: _ => [.token, .type true, .after ';' (.expression true), .token]
  | .opening .curly :: _ => []
  | .sign c _ :: _ =>
    if c = '*' then [.token, .token, .type false]
    else if c = '&' then [.token, .perhapsLifetime, .perhaps "mut", .type false]
    else if c = '!' then [.token]
    else if c = '?' ∨ c = '~' then [.bounds plus]
    else if c = ':' ∨ c = '<' then pathTypeParts plus
    else []
  | .lifetime _ :: _ => [.bounds plus]
  | .word _ :: _ => wordTypeParts plus ts
  | _ => []

/-- An object may be behind a pointer of its own kind. -/
def objectParts (plus : Bool) : List Part := [.manner .kept, .token, .token, .bounds plus]

/-- A macro may make a type. -/
def invocationParts (ts : List Token) : List Part :=
  if atCall ts then [.token, .enclosed] else []

/-! ## Functions -/

def signatureParts (ts : List Token) : List Part :=
  if atWord "fn" ts then .token :: enclosing .parameter .bracket ++ [.result false]
  else if atName ts || atLiteral ts then [.token, .signature]
  else []

def parameterParts (ts : List Token) : List Part :=
  if spells ['#'] ts then [.attribute, .parameter]
  else if atWord "mut" ts && atWord "self" (ts.drop 1) then [.formed .selfParameter]
  else if atName ts && atColon (ts.drop 1) then [.token, .token, .typeOrPoints]
  else [.typeOrPoints]

/-- The type of a function has no object, so one that is named is kept as it is. -/
def selfParameterParts : List Part := [.manner .kept, .token, .token, .after ':' (.type true)]

def typeOrPointsParts (ts : List Token) : List Part :=
  if spells ['.', '.', '.'] ts then [.operator 3] else [.type true]

def resultParts (plus : Bool) (ts : List Token) : List Part :=
  if spells ['-', '>'] ts then [.operator 2, .type plus] else []

/-! ## Bounds -/

def boundsParts (plus : Bool) : List Part := [.formed .bound, .moreBounds plus]

def moreBoundsParts (plus : Bool) (ts : List Token) : List Part :=
  if plus && spells ['+'] ts then [.token, .bounds true] else []

/-- The parts of a bound that begins with a word. -/
def wordBoundParts (ts : List Token) : List Part :=
  if atWord "for" ts then introduced ++ [.bound]
  else if atWord "const" ts then [.manner .kept, .token, .bound]
  else if atWord "async" ts then [.token, .bound]
  else if atWord "use" ts && spells ['<'] (ts.drop 1) then [.token, .arguments]
  else [.path true]

def boundParts (ts : List Token) : List Part :=
  match ts with
  | .lifetime _ :: _ => [.token]
  | .opening .round :: _ => [.token, .bound, .token]
  | .opening .square :: _ => [.manner .kept, .enclosed, .bound]
  | .sign c _ :: _ =>
    if c = '?' then [.token, .bound]
    else if c = '~' then [.manner .kept, .token, .bound]
    else if c = ':' ∨ c = '<' then [.path true]
    else []
  | .word _ :: _ => wordBoundParts ts
  | _ => []

/-- Whether bounds that would follow a colon are missing. -/
def withoutBounds (ts : List Token) : Bool :=
  atEnd ts || atBracket .curly ts || spellsAny [",", ">", "=", ";"] ts || atWord "where" ts

def ownBoundsParts (ts : List Token) : List Part :=
  if !atColon ts then []
  else if withoutBounds (ts.drop 1) then [.dropped 1]
  else [.token, .bounds true]

/-- A parameter that is introduced, with its bounds and the argument it has by default. -/
def genericParts (ts : List Token) : List Part :=
  if spells ['#'] ts then [.attribute, .generic]
  else if atWord "const" ts then [.token, .token, .after ':' (.type true), .after '=' .argument]
  else if atName ts || atLifetime ts then [.token, .ownBounds, .after '=' (.type true)]
  else []

/-! ## Paths -/

def pathParts (inType : Bool) (ts : List Token) : List Part :=
  if spells ['<'] ts then [.token, .type true, .trait, .token, .moreSegments inType]
  else if spells [':', ':'] ts then [.operator 2, .segment inType]
  else [.segment inType]

def traitParts (ts : List Token) : List Part :=
  if atWord "as" ts then [.token, .path true] else []

/-- The words that take no arguments in angle brackets. -/
def plainSegments : List String := ["crate", "self", "super", "try"]

def segmentParts (inType : Bool) (ts : List Token) : List Part :=
  if atAnyWord plainSegments ts then [.token, .moreSegments inType]
  else if atName ts then [.token, .segmentArguments inType]
  else []

/-- Whether what a function takes comes next, perhaps behind a double colon. -/
def atCallTypes (ts : List Token) : Bool :=
  atBracket .round ts || (spells [':', ':'] ts && atBracket .round (ts.drop 2))

/-- Whether angle brackets come next that enclose nothing. -/
def atNoArguments (ts : List Token) : Bool := spells ['<'] ts && spells ['>'] (ts.drop 1)

def segmentArgumentsParts (inType : Bool) (ts : List Token) : List Part :=
  let colons := spells [':', ':'] ts
  if inType && atNoArguments ts && atCallTypes (ts.drop 2) then [.dropped 2, .moreSegments true]
  else if inType && colons && atNoArguments (ts.drop 2) && atCallTypes (ts.drop 4) then
    [.dropped 4, .moreSegments true]
  else if colons && spells ['<'] (ts.drop 2) then [.operator 2, .arguments, .moreSegments inType]
  else if inType && atAngle ts then [.arguments, .moreSegments true]
  else [.moreSegments inType]

/-- The types that a function takes and returns, written like a call. -/
def callTypes : List Part := enclosing (.type true) .bracket ++ [.result false, .moreSegments true]

def moreSegmentsParts (inType : Bool) (ts : List Token) : List Part :=
  if inType && atBracket .round ts then callTypes
  else if !spells [':', ':'] ts then []
  else if inType && atBracket .round (ts.drop 2) then .dropped 2 :: callTypes
  else [.operator 2, .segment inType]

/-! ## Arguments -/

def argumentsParts : List Part := [.token, .arranged .argument, .token]

def argumentParts (ts : List Token) : List Part :=
  match ts with
  | .lifetime _ :: next => if spells ['+'] next then [.type true] else [.token]
  | .literal _ _ :: _ => [.token]
  | .sign '-' _ :: .literal _ _ :: _ => [.token, .token]
  | .opening .curly :: _ => [.block]
  | _ => [.type true, .after '=' .argument, .after ':' (.bounds true)]

end RowBinding.Derive.Canonical
