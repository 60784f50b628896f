import RowBinding.Derive.Token
/-!
# Looking ahead

The next tokens tell what comes next.  **Only what the question is about is looked at**: `==` begins
with an equals sign, and where that matters the question says so.
-/
namespace RowBinding.Derive.Canonical

/-! ## Signs -/

/-- Whether the next signs are these and no space or comment stands between them. -/
def spells : List Char → List Token → Bool
  | [], _ => true
  | [c], .sign d _ :: _ => c == d
  | c :: cs, .sign d true :: rest => c == d && spells cs rest
  | _, _ => false

/-- Whether one of these operators comes next. -/
def spellsAny (operators : List String) (ts : List Token) : Bool :=
  operators.any fun op => spells op.toList ts

/-- The number of signs of the operator that comes next, if it is one of these.  The longer ones
come first. -/
def operator? (operators : List String) (ts : List Token) : Option Nat :=
  (operators.find? fun op => spells op.toList ts).map (·.length)

/-- Whether a colon comes next that is not the first sign of `::`. -/
def atColon (ts : List Token) : Bool := spells [':'] ts && !spells [':', ':'] ts

/-- Whether an equals sign comes next that is not the first sign of an operator. -/
def atEquals (ts : List Token) : Bool :=
  spells ['='] ts && !spells ['=', '='] ts && !spells ['=', '>'] ts

/-- Whether this sign comes next, by itself. -/
def atSign (c : Char) (ts : List Token) : Bool :=
  if c = ':' then atColon ts else if c = '=' then atEquals ts else spells [c] ts

/-- Whether a point comes next that is not the first sign of `..`. -/
def atPoint (ts : List Token) : Bool := spells ['.'] ts && !spells ['.', '.'] ts

/-- Whether an angle bracket opens next that is not the first sign of a comparison. -/
def atAngle (ts : List Token) : Bool :=
  spells ['<'] ts && !spells ['<', '='] ts && !spells ['<', '<', '='] ts

/-! ## Words, brackets and literals -/

def atWord (word : String) : List Token → Bool
  | .word name :: _ => name == word
  | _ => false

/-- Whether any of these words comes next. -/
def atAnyWord (words : List String) (ts : List Token) : Bool := words.any (atWord · ts)

/-- Whether a word comes next. -/
def atName : List Token → Bool
  | .word _ :: _ => true
  | _ => false

/-- Whether a word comes next that is no keyword. -/
def atFreeName : List Token → Bool
  | .word name :: _ => !keywords.contains name
  | _ => false

def atOpening : List Token → Bool
  | .opening _ :: _ => true
  | _ => false

def atBracket (b : Bracket) : List Token → Bool
  | .opening c :: _ => b == c
  | _ => false

/-- Whether a bracket closes next, or there is nothing left. -/
def atEnd : List Token → Bool
  | [] => true
  | .closing _ :: _ => true
  | _ => false

def atLifetime : List Token → Bool
  | .lifetime _ :: _ => true
  | _ => false

def atLiteral : List Token → Bool
  | .literal _ _ :: _ => true
  | _ => false

/-- Whether the head of an item ends here. -/
def atBody (ts : List Token) : Bool :=
  atEnd ts || atBracket .curly ts || spells [';'] ts || spells ['='] ts

/-- Whether the name of a field and a colon come next. -/
def atFieldName (ts : List Token) : Bool := (atName ts || atLiteral ts) && atColon (ts.drop 1)

/-- Whether a macro is called, of which the name has been read. -/
def atCall (ts : List Token) : Bool := spells ['!'] ts && atOpening (ts.drop 1)

/-- The signs that make a range. -/
def ranges : List String := ["..=", "...", ".."]

def atRange (ts : List Token) : Bool := spells ['.', '.'] ts

/-- Whether angle brackets with generic parameters open next.  Such brackets may also begin the
path of a type.  They hold parameters if they are empty or begin with an attribute, with a constant,
or with a name that ends like a parameter. -/
def opensGenerics (ts : List Token) : Bool :=
  let first := ts.drop 1
  let next := first.drop 1
  let named := (atLifetime first || atFreeName first) &&
    (spellsAny [">", ",", "="] next || atColon next)
  spells ['<'] ts && (spellsAny [">", "#"] first || atWord "const" first || named)

/-! ## Behind what comes next -/

/-- What follows a bracket and all it encloses, so many of which are open. -/
def afterEnclosed : (depth : Nat) → List Token → List Token
  | _, [] => []
  | depth, t :: rest =>
    let depth :=
      match t with
      | .opening _ => depth + 1
      | .closing _ => depth - 1
      | _ => depth
    if depth = 0 then rest else afterEnclosed depth rest

/-- What follows a word, if it comes next. -/
def afterWord (word : String) (ts : List Token) : List Token :=
  if atWord word ts then ts.drop 1 else ts

/-- The keywords that may stand in a path. -/
def pathWords : List String := ["crate", "self", "Self", "super"]

/-- What follows a path without arguments, if one comes next. -/
def afterPath : List Token → List Token
  | .sign ':' true :: .sign ':' _ :: rest => afterPath rest
  | .word name :: rest =>
    if keywords.contains name && !pathWords.contains name then .word name :: rest
    else if spells [':', ':'] rest then afterPath rest
    else rest
  | ts => ts

/-- What follows the attributes that come next, among so many tokens. -/
def afterAttributes : (tokens : Nat) → List Token → List Token
  | tokens + 1, .sign '#' joined :: rest =>
    if atBracket .square rest then afterAttributes tokens (afterEnclosed 0 rest)
    else .sign '#' joined :: rest
  | _, ts => ts

/-- What follows the attributes of what comes next. -/
def bare (ts : List Token) : List Token := afterAttributes ts.length ts

/-- How many tokens the attributes of what comes next take. -/
def attributeTokens (ts : List Token) : Nat := ts.length - (bare ts).length

/-- Whether an attribute comes next that belongs to what it stands in. -/
def atInnerAttribute (ts : List Token) : Bool := spells ['#'] ts && spells ['!'] (ts.drop 1)

/-- What follows the visibility of an item or a field, if it has one. -/
def afterVisibility (ts : List Token) : List Token :=
  if !atWord "pub" ts then ts
  else
    match ts.drop 1 with
    | .opening .round :: .word w :: rest =>
      if w == "in" || (["crate", "self", "super"].contains w && atEnd rest) then
        afterEnclosed 0 (ts.drop 1)
      else ts.drop 1
    | rest => rest

end RowBinding.Derive.Canonical
