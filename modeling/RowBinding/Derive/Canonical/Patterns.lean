import RowBinding.Derive.Canonical.Types
/-!
# What patterns consist of

A pattern has the shape of the values it matches.  A range of values in it may be open at either
side, and **three points mean a range with its end**, as two points and an equals sign do.

Attributes in front of a range would seem to belong to its beginning, so the range is grouped behind
them.  Patterns of boxes are no settled part of the language.  They are kept as they were.
-/
namespace RowBinding.Derive.Canonical

/-! ## Alternatives -/

def alternativesParts (ts : List Token) : List Part :=
  if spells ['|'] ts && !spellsAny ["||", "|="] ts then [.token, .single false, .alternatives]
  else []

def patternParts (ts : List Token) : List Part :=
  if spells ['|'] ts then [.token, .single false, .alternatives] else [.single false, .alternatives]

/-! ## Single patterns -/

/-- The parts of a pattern that begins with a word. -/
def wordPatternParts (marked : Bool) (ts : List Token) : List Part :=
  if atWord "_" ts then [.token]
  else if atWord "box" ts then [.formed .boxed]
  else if atAnyWord ["mut", "ref"] ts then [.token, .single false]
  else if atWord "const" ts then [.token, .block, .rangePattern marked]
  else [.path false, .namedPattern marked]

def singleParts (marked : Bool) (ts : List Token) : List Part :=
  match ts with
  | .opening .curly :: _ => []
  | .opening _ :: _ => enclosing .pattern .bracket
  | .literal _ _ :: _ => [.token, .rangePattern marked]
  | .word _ :: _ => wordPatternParts marked ts
  | .sign c _ :: _ =>
    if c = '&' then [.token, .perhaps "mut", .single false]
    else if c = '-' then [.token, .token, .rangePattern marked]
    else if spells [':', ':'] ts || c = '<' then [.path false, .namedPattern marked]
    else [.rangePattern marked]
  | _ => []

def boxedParts : List Part := [.manner .kept, .token, .single false]

def namedPatternParts (marked : Bool) (ts : List Token) : List Part :=
  if atCall ts then [.token, .enclosed]
  else if atBracket .curly ts then enclosing .patternField .bracket
  else if atBracket .round ts then enclosing .pattern .bracket
  else if spells ['@'] ts then [.token, .single false]
  else [.rangePattern marked]

/-! ## Ranges -/

def rangePatternParts (marked : Bool) (ts : List Token) : List Part :=
  let mark : List Part := if marked then [.untyped] else []
  if spells ['.', '.', '.'] ts then [.threePoints, .patternBound] ++ mark
  else
    match operator? ranges ts with
    | some n => [.operator n, .patternBound] ++ mark
    | none => []

/-- Whether a range in a pattern has no end. -/
def patternUnbounded (ts : List Token) : Bool :=
  atEnd ts || spellsAny ["|", "=", ",", ";"] ts || atColon ts || atAnyWord ["if", "in"] ts

def patternBoundParts (ts : List Token) : List Part :=
  if patternUnbounded ts then []
  else if atLiteral ts then [.token]
  else if spells ['-'] ts then [.token, .token]
  else if atWord "const" ts then [.token, .block]
  else [.path false]

/-- Where a type follows, the attributes stand in front of both. -/
def untypedParts (ts : List Token) : List Part :=
  if atColon ts then [] else [.manner .grouped]

/-! ## Fields -/

def patternFieldParts (ts : List Token) : List Part :=
  if spells ['#'] ts then [.attribute, .patternField]
  else if atFieldName ts then [.member, .token, .pattern]
  else [.single false]

end RowBinding.Derive.Canonical
