import RowBinding.Derive.Canonical.Expressions
/-!
# What blocks consist of

A block holds statements, among them items that it declares.  **A block with which a statement
begins ends it**, unless a point or a question mark comes next: the `&&` behind it takes an address
then.  So does a macro in curly brackets, which in an arm of a match is an operand like any other.
-/
namespace RowBinding.Derive.Canonical

/-! ## Statements -/

def blockParts (ts : List Token) : List Part :=
  if atBracket .curly ts then [.token, .list .statement .bracket, .token] else []

/-- Whether a block comes next that ends a statement. -/
def atBlock (ts : List Token) : Bool :=
  atBracket .curly ts || atLifetime ts || (blockWordParts? ts).isSome

/-- Whether a macro in curly brackets comes next that ends a statement. -/
def atBlockCall (ts : List Token) : Bool :=
  let called := afterPath ts
  let rest := afterEnclosed 0 (called.drop 1)
  spells ['!'] called && atBracket .curly (called.drop 1) && !atPoint rest && !spells ['?'] rest

/-- Whether a macro is called that names what it makes. -/
def atNamedCall (ts : List Token) : Bool :=
  let called := afterPath ts
  let name := called.drop 1
  spells ['!'] called && (atFreeName name || atWord "try" name)

/-- Whether `const` begins an item here, and not an operand. -/
def atConstant (ts : List Token) : Bool :=
  let next := ts.drop 1
  let operand :=
    atBracket .curly next || atAnyWord ["static", "move"] next || spells ['|'] next ||
      (atWord "async" next && !atAnyWord ["unsafe", "extern", "fn"] (next.drop 1))
  atWord "const" ts && !operand

/-- Whether an item is declared here, its attributes left aside. -/
def atItem (ts : List Token) : Bool :=
  let next := ts.drop 1
  atAnyWord ["pub", "extern", "use", "fn", "mod", "type", "struct", "enum", "trait", "impl",
      "macro"] ts ||
    atConstant ts ||
    (atWord "static" ts && (atWord "mut" next || atFreeName next)) ||
    (atWord "unsafe" ts && !atBracket .curly next) ||
    (atWord "async" ts && atAnyWord ["unsafe", "extern", "fn"] next) ||
    (atWord "union" ts && atFreeName next) ||
    (atWord "auto" ts && atWord "trait" next) ||
    (atWord "default" ts && atAnyWord ["unsafe", "impl"] next) ||
    atNamedCall ts

/-- A pattern, perhaps with its type and its value, behind the word that introduces it. -/
def letParts : List Part :=
  [.token, .single false, .after ':' (.type true), .after '=' (.expression true), .otherwise]

/-- Whether a statement is an operand that is kept as it is, so that its attributes are lost. -/
def isKept (ts : List Token) : Bool :=
  let behind := afterEnclosed 0 (ts.drop 3)
  atWord "become" ts ||
    (atKept ts && !atPoint behind && !spells ['?'] behind && !atBracket .round behind &&
      !atBracket .square behind)

def statementParts (ts : List Token) : List Part :=
  if atInnerAttribute ts then [.attribute]
  else if atItem (bare ts) then [.formed (.item .block)]
  else if atWord "let" (bare ts) then .attributes :: letParts
  else if !spells ['#'] ts then [.action false]
  else if isKept (bare ts) then [.dropped (attributeTokens ts), .action false]
  else [.formed (.action true)]

def actionParts (marked : Bool) (ts : List Token) : List Part :=
  if atBlock (bare ts) then [.attributes, .operand true, .afterBlock marked]
  else if atBlockCall (bare ts) then [.attributes, .path false, .named true]
  else
    (if marked && atRange (bare ts) then [.manner .grouped] else []) ++
      [.formed (.casted true), .operators true marked]

def afterBlockParts (marked : Bool) (ts : List Token) : List Part :=
  if atPoint ts || spells ['?'] ts then [.trailers, .casts, .operators true marked] else []

/-! ## Conditions and matches -/

def otherwiseParts (ts : List Token) : List Part :=
  if !atWord "else" ts then []
  else if atWord "if" (ts.drop 1) then [.token, .token, .expression false, .block, .otherwise]
  else [.token, .block]

def armParts (ts : List Token) : List Part :=
  if spells ['#'] ts then [.attribute, .arm] else [.pattern, .guard, .operator 2, .armBody]

def guardParts (ts : List Token) : List Part :=
  if atWord "if" ts then [.token, .expression true] else []

def armBodyParts (ts : List Token) : List Part :=
  if atBlock (bare ts) then [.attributes, .operand true, .afterBlock false]
  else if !spells ['#'] ts then [.expression true]
  else if isKept (bare ts) then [.dropped (attributeTokens ts), .expression true]
  else if atRange (bare ts) then [.formed (.action true)]
  else [.expression true]

end RowBinding.Derive.Canonical
