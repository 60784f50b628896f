import RowBinding.Derive.Token
import RowBinding.Derive.Literal
/-!
# From source text to tokens

Source text is cut into tokens from the left, each as long as it can be; blanks and comments
between tokens mean nothing.  **A comment that documents something is no blank**: it stands for the
attribute that gives its text.

The text is taken to be well formed.  So a character beyond ASCII that is no blank is a letter, as
nothing else of that kind may stand outside of a literal.
-/
namespace RowBinding.Derive.Lexer

/-! ## Characters -/

/-- Blanks between tokens; the two direction marks count as blanks. -/
def isBlank (c : Char) : Bool := Text.isBlank c || c = '\u200e' || c = '\u200f'

def isLetter (c : Char) : Bool := c = '_' || c.isAlpha || (128 ≤ c.toNat && !isBlank c)

/-- A character inside a name. -/
def isWordChar (c : Char) : Bool := isLetter c || c.isDigit

/-- The characters that signs are made of. -/
def isSignChar (c : Char) : Bool := "~!@#$%^&*-=+|;:,<.>/?'".toList.contains c

/-! ## Names -/

/-- The name at the beginning of a text, raw or not, and the rest. -/
def takeWord (cs : List Char) : String × List Char :=
  let mark := if cs.take 2 = ['r', '#'] then ['r', '#'] else []
  let cs := cs.drop mark.length
  (String.ofList (mark ++ cs.takeWhile isWordChar), cs.dropWhile isWordChar)

/-! ## Comments -/

/-- A comment in brackets, whose opening has been read, is left out; comments may be nested. -/
def dropComment : (depth : Nat) → List Char → List Char
  | 0, cs => cs
  | _ + 1, [] => []
  | depth + 1, '*' :: '/' :: rest => dropComment depth rest
  | depth + 1, '/' :: '*' :: rest => dropComment (depth + 2) rest
  | depth + 1, _ :: rest => dropComment (depth + 1) rest

/-- The beginning of a text up to the end of its line. -/
def lineOf : List Char → List Char
  | [] => []
  | '\n' :: _ => []
  | '\r' :: '\n' :: _ => []
  | c :: rest => c :: lineOf rest

/-- Whether a comment, whose opening with this mark has been read, documents something: the thing
it stands in (`true`) or the thing it stands before. -/
def documents? (mark : Char) : List Char → Option Bool
  | '!' :: _ => some true
  | c :: rest =>
    if c = mark ∧ !rest.head?.any (fun d => d = mark || d = '/') then some false else none
  | [] => none

/-- The attribute that gives the text of a comment. -/
def documentation (inner : Bool) (text : List Char) : List Token :=
  .sign '#' false :: (if inner then [.sign '!' false] else []) ++
    [.opening .square, .word "doc", .sign '=' false,
      .literal (Literal.ofText (String.ofList text)) (.text (String.ofList text)), .closing .square]

/-- What a comment stands for. -/
def commentTokens (mark : Char) (opened body : List Char) : List Token :=
  match documents? mark opened with
  | some inner => documentation inner (body.drop 1)
  | none => []

/-- The comment at the beginning of a text, and the rest. -/
def comment? : List Char → Option (List Token × List Char)
  | '/' :: '/' :: rest =>
    let body := lineOf rest
    some (commentTokens '/' rest body, rest.drop body.length)
  | '/' :: '*' :: rest =>
    let after := dropComment 1 rest
    some (commentTokens '*' rest (rest.take (rest.length - after.length - 2)), after)
  | _ => none

/-! ## Numbers -/

def isPlace (c : Char) : Bool := c.isDigit || c = '_'

/-- What follows the exponent whose letter has been read, if it has a value. -/
def afterExponent? : (signed valued : Bool) → List Char → Option (List Char)
  | _, valued, [] => if valued then some [] else none
  | signed, valued, c :: rest =>
    if c = '+' ∨ c = '-' then
      if valued then some (c :: rest)
      else if signed then none
      else afterExponent? true false rest
    else if isPlace c then afterExponent? signed (valued || c.isDigit) rest
    else if valued then some (c :: rest)
    else none

/-- What follows a number with an exponent, if a number that has come this far goes on with one. -/
def afterPower? : List Char → Option (List Char)
  | c :: rest => if c = 'e' ∨ c = 'E' then afterExponent? false false rest else none
  | [] => none

/-- What follows the number at the beginning of a text.  Neither a second point nor a name may
follow the point of a number. -/
def afterNumber (cs : List Char) : List Char :=
  match cs.dropWhile isPlace with
  | '.' :: more =>
    if more.head?.any (fun c => c = '.' || isLetter c) then cs.dropWhile isWordChar
    else
      let rest := more.dropWhile isPlace
      (afterPower? rest).getD rest
  | rest => (afterPower? rest).getD (cs.dropWhile isWordChar)

/-! ## Literals -/

/-- What follows the suffix of a literal, if it has one.  A suffix begins with a letter. -/
def afterSuffix (cs : List Char) : List Char :=
  if cs.head?.any isLetter then cs.dropWhile isWordChar else cs

/-- The token of a literal of which all but the suffix ends where `rest` begins. -/
def literal (cs rest : List Char) (kind : LiteralKind) : Token × List Char :=
  let rest := afterSuffix rest
  (.literal (String.ofList (cs.take (cs.length - rest.length))) kind, rest)

/-- The body of a raw literal behind its `r`, if it is one. -/
def raw? (cs : List Char) : Option (List Char × List Char) :=
  let hashes := (cs.takeWhile (· = '#')).length
  match cs.drop hashes with
  | '"' :: rest => some (Literal.scanRaw hashes rest)
  | _ => none

/-- A character literal up to its closing quote, behind a backslash and the character after it. -/
def afterQuote (cs : List Char) : List Char := (cs.dropWhile (· ≠ '\'')).drop 1

/-- A literal of characters or bytes, or none. -/
def quoted? (cs : List Char) : Option (Token × List Char) :=
  match cs with
  | '"' :: rest =>
    let (body, after) := Literal.scan rest
    some (literal cs after (.text (Literal.meaning body)))
  | 'r' :: rest => (raw? rest).map fun (body, after) =>
      literal cs after (.text (String.ofList body))
  | 'b' :: 'r' :: rest | 'c' :: 'r' :: rest =>
    (raw? rest).map fun (_, after) => literal cs after .other
  | 'b' :: '"' :: rest | 'c' :: '"' :: rest => some (literal cs (Literal.scan rest).2 .other)
  | 'b' :: '\'' :: '\\' :: _ :: rest => some (literal cs (afterQuote rest) .other)
  | 'b' :: '\'' :: _ :: rest => some (literal cs (afterQuote rest) .other)
  | '\'' :: '\\' :: _ :: rest => some (literal cs (afterQuote rest) .other)
  | '\'' :: _ :: '\'' :: rest => some (literal cs rest .other)
  | _ => none

/-! ## Tokens -/

def bracket? (c : Char) : Option Token :=
  if c = '(' then some (.opening .round)
  else if c = ')' then some (.closing .round)
  else if c = '[' then some (.opening .square)
  else if c = ']' then some (.closing .square)
  else if c = '\x7b' then some (.opening .curly)
  else if c = '\x7d' then some (.closing .curly)
  else none

/-- Whether a text begins with a sign; the opening of a comment is none. -/
def beginsWithSign : List Char → Bool
  | '/' :: c :: _ => c ≠ '/' && c ≠ '*'
  | c :: _ => isSignChar c
  | [] => false

/-- A token that is no literal, at the beginning of a text that is not empty. -/
def plain (c : Char) (rest : List Char) : Token × List Char :=
  if c.isDigit then literal (c :: rest) (afterNumber (c :: rest)) .number
  else if isLetter c then
    let (name, after) := takeWord (c :: rest)
    (.word name, after)
  else if c = '\'' then
    let (name, after) := takeWord rest
    (.lifetime name, after)
  else
    match bracket? c with
    | some t => (t, rest)
    | none => (.sign c (beginsWithSign rest), rest)

/-- What the beginning of a text stands for, and the rest. -/
def first? : List Char → Option (List Token × List Char)
  | [] => none
  | c :: rest =>
    if isBlank c then some ([], rest)
    else
      let token := (quoted? (c :: rest)).getD (plain c rest)
      some ((comment? (c :: rest)).getD ([token.1], token.2))

/-- The tokens of a text.  Something of the text is taken each time, so it comes to its end. -/
def tokens (cs : List Char) : List Token :=
  match first? cs with
  | none => []
  | some (ts, rest) => if _h : rest.length < cs.length then ts ++ tokens rest else ts
termination_by cs.length
decreasing_by exact _h

end RowBinding.Derive.Lexer
