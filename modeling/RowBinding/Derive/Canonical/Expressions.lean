import RowBinding.Derive.Canonical.Patterns
/-!
# What expressions consist of

The length of an array is an expression, and so is an argument of a path in curly brackets.  An
expression is a row of operands with operators between them.  **The same signs mean one thing where
an operand is due and another after it**: `&&` takes an address twice before an operand, and is one
operator after it.  Whether an operand is due behind a range or a jump, the next sign tells.
-/
namespace RowBinding.Derive.Canonical

def expressionParts (structs : Bool) : List Part :=
  [.formed (.casted structs), .operators structs false]

def castedParts (structs : Bool) : List Part := [.operand structs, .trailers, .casts]

/-! ## Operands -/

/-- Whether an operand comes next that is kept as it is. -/
def atKept (ts : List Token) : Bool :=
  atWord "become" ts || (atWord "builtin" ts && spells ['#'] (ts.drop 1))

/-- Whether `for` introduces parameters here, and not a loop. -/
def introduces (ts : List Token) : Bool := atWord "for" ts && opensGenerics (ts.drop 1)

/-- An operand that begins with a word and ends with a block. -/
def blockWordParts? (ts : List Token) : Option (List Part) :=
  if atWord "if" ts then some [.token, .expression false, .block, .otherwise]
  else if atWord "while" ts then some [.token, .expression false, .block]
  else if atWord "match" ts then some ([.token, .expression false] ++ enclosing .arm .bracket)
  else if atWord "for" ts && !introduces ts then
    some [.token, .pattern, .token, .expression false, .block]
  else if atAnyWord ["loop", "unsafe", "try", "const"] ts && atBracket .curly (ts.drop 1) then
    some [.token, .block]
  else none

/-- An operand that begins with a word. -/
def wordOperandParts (structs : Bool) (ts : List Token) : List Part :=
  match blockWordParts? ts with
  | some parts => parts
  | none =>
    if introduces ts then introduced ++ [.operand structs]
    else if atAnyWord ["const", "async", "static", "move"] ts then [.token, .operand structs]
    else if atWord "let" ts then [.token, .pattern, .token, .expression structs]
    else if atAnyWord ["return", "yield"] ts then [.token, .jumpValue true]
    else if atWord "break" ts then [.token, .perhapsLifetime, .jumpValue structs]
    else if atWord "continue" ts then [.token, .perhapsLifetime]
    else if atWord "_" ts then [.token]
    else [.path false, .named structs]

/-- The parts of an operand that begins with a sign. -/
def signOperandParts (structs : Bool) (ts : List Token) : List Part :=
  if spells ['#'] ts then [.attribute, .operand structs]
  else if spells ['&'] ts then [.token, .address, .perhaps "mut", .operand structs]
  else if spellsAny ["*", "-", "!"] ts then [.token, .operand structs]
  else if spells ['|'] ts then
    enclosing .closureParameter .bar ++ [.result true, .expression structs]
  else if spellsAny ["::", "<"] ts then [.path false, .named structs]
  else
    match operator? ranges ts with
    | some n => [.operator n, .rangeEnd (n == 3) structs]
    | none => [.token]

def operandParts (structs : Bool) (ts : List Token) : List Part :=
  if atKept (bare ts) then [.formed .keptOperand]
  else
    match ts with
    | [] | .closing _ :: _ => []
    | .opening .curly :: _ => [.block]
    | .opening _ :: _ => enclosing (.expression true) .bracket
    | .literal _ _ :: _ => [.token]
    | .lifetime _ :: _ => [.token, .token, .operand structs]
    | .word _ :: _ => wordOperandParts structs ts
    | .sign _ _ :: _ => signOperandParts structs ts

def keptOperandParts (ts : List Token) : List Part :=
  [.manner .kept, .attributes] ++
    if atWord "become" (bare ts) then [.token, .expression true]
    else [.token, .token, .token, .enclosed]

/-- The words that say that an address is taken without a reference. -/
def addressParts (ts : List Token) : List Part :=
  if atWord "raw" ts && atAnyWord ["const", "mut"] (ts.drop 1) then [.token, .token] else []

/-- A path may name a macro or a struct. -/
def namedParts (structs : Bool) (ts : List Token) : List Part :=
  if atCall ts then [.token, .enclosed]
  else if structs && atBracket .curly ts then enclosing .field .bracket
  else []

def fieldParts (ts : List Token) : List Part :=
  if spells ['#'] ts then [.attribute, .field]
  else if atFieldName ts then [.member, .token, .expression true]
  else [.expression true]

/-! ## Closures -/

/-- Whether a parameter has a type, among so many tokens. -/
def typed : (tokens : Nat) → List Token → Bool
  | 0, _ => false
  | _ + 1, [] => false
  | tokens + 1, t :: rest =>
    if spellsAny ["|", ","] (t :: rest) then false
    else if atColon (t :: rest) then true
    else if atOpening (t :: rest) then typed tokens (afterEnclosed 0 (t :: rest))
    else if spells [':'] (t :: rest) then typed tokens (rest.drop 1)
    else typed tokens rest

/-- The attributes of a box without a type are lost, as what is kept as it is has none. -/
def closureParameterParts (ts : List Token) : List Part :=
  let type : Part := .after ':' (.type true)
  if !spells ['#'] ts then [.single false, type]
  else if atWord "box" (bare ts) && !typed ts.length (bare ts) then
    [.dropped (attributeTokens ts), .single false]
  else [.attributes, .formed (.single true), type]

/-! ## Jumps and ranges -/

/-- The signs with which an expression begins, and those that only begin like them. -/
def expressionSigns : List String := ["!", "-", "*", "|", "&", "..", "<", "::", "#"]
def operatorSigns : List String := ["!=", "-=", "->", "*=", "|=", "&=", "<=", "<<="]

/-- Whether an expression begins here. -/
def beginsExpression : List Token → Bool
  | .word name :: _ => name != "as"
  | .opening _ :: _ | .literal _ _ :: _ | .lifetime _ :: _ => true
  | .sign c joined :: rest =>
    spellsAny expressionSigns (.sign c joined :: rest) &&
      !spellsAny operatorSigns (.sign c joined :: rest)
  | _ => false

def jumpValueParts (blocks : Bool) (ts : List Token) : List Part :=
  if beginsExpression ts && (blocks || !atBracket .curly ts) then [.expression true] else []

/-- The signs behind a range that has no end. -/
def rangeEnds : List String :=
  [",", ";", "?", "=", "+", "/", "%", "^", ">", "<=", "!=", "-=", "*=", "&=", "|=", "<<="]

/-- Whether a range that need not have an end has none. -/
def unbounded (structs : Bool) (ts : List Token) : Bool :=
  atEnd ts || spellsAny rangeEnds ts || atPoint ts || atWord "as" ts ||
    (!structs && atBracket .curly ts)

def rangeEndParts (inclusive structs : Bool) (ts : List Token) : List Part :=
  if !inclusive && unbounded structs ts then [] else [.formed (.casted structs)]

/-! ## Behind an operand -/

def trailersParts (ts : List Token) : List Part :=
  match ts with
  | .opening .curly :: _ => []
  | .opening _ :: _ => enclosing (.expression true) .bracket ++ [.trailers]
  | _ =>
    if atPoint ts then [.token, .member, .trailers]
    else if spells ['?'] ts then [.token, .trailers]
    else []

/-- A member is a name, perhaps with arguments, or a position.  Positions with a point between them
were read like one number; if that number ends with the point, one more position follows it. -/
def memberParts (ts : List Token) : List Part :=
  match ts with
  | .literal source .number :: _ =>
    if source.endsWith "." then [.positions, .member] else [.positions]
  | .word _ :: next =>
    if spells [':', ':'] next then [.token, .operator 2, .arguments] else [.token]
  | .literal _ _ :: _ => [.token]
  | _ => []

def castsParts (ts : List Token) : List Part :=
  if atWord "as" ts then [.token, .castType, .casts] else []

/-- The operators that give a value to a place. -/
def assignments : List String :=
  ["<<=", ">>=", "+=", "-=", "*=", "/=", "%=", "^=", "&=", "|="]

/-- The operators that stand between two operands. -/
def betweenOperands : List String :=
  assignments ++ ["&&", "||", "<<", ">>", "==", "!=", "<=", ">=", "+", "-", "*", "/", "%", "^", "&",
    "|", "<", ">", "="]

/-- A range that is the value of an assignment is not marked as the assignment is. -/
def operatorsParts (structs marked : Bool) (ts : List Token) : List Part :=
  match operator? ranges ts with
  | some n =>
    (if marked then [.manner .grouped] else []) ++
      [.operator n, .rangeEnd (n == 3) structs, .operators structs marked]
  | none =>
    if spellsAny ["=>", "->"] ts then []
    else
      match operator? betweenOperands ts with
      | some n =>
        let assigns := spellsAny assignments ts || atEquals ts
        [.operator n, .formed (.casted structs), .operators structs (marked && !assigns)]
      | none => []

/-! ## Attributes -/

def attributesParts (ts : List Token) : List Part :=
  if spells ['#'] ts then [.attribute, .attributes] else []

def attributeParts (ts : List Token) : List Part :=
  let body : List Part := [.token, .path false, .attributeBody, .token]
  if spells ['!'] (ts.drop 1) then .token :: .token :: body else .token :: body

/-- What follows the name of an attribute: a bracket, or a value. -/
def attributeBodyParts (ts : List Token) : List Part :=
  if atOpening ts then [.enclosed]
  else if spells ['='] ts then [.token, .expression true]
  else []

end RowBinding.Derive.Canonical
