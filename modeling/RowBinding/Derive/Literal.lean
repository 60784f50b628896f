import RowBinding.Text.Quoted
/-!
# Text literals

A text literal stands in source text between double quotes.  Read, it means the text with its
escapes resolved: a backslash at the end of a line takes the line break and the blanks after it
away, and a line break means one line feed however it is coded.  Written, it is quoted like all
other text, except that a null character before an octal digit is given by its number.
-/
namespace RowBinding.Derive.Literal

/-! ## Reading -/

/-- A literal, whose opening quote has been read, up to its closing quote; and the rest. -/
def scan : List Char → List Char × List Char
  | [] => ([], [])
  | '"' :: rest => ([], rest)
  | '\\' :: c :: rest =>
    let (body, rest) := scan rest
    ('\\' :: c :: body, rest)
  | c :: rest =>
    let (body, rest) := scan rest
    (c :: body, rest)

/-- A raw literal, whose opening quote has been read, up to the quote that so many hash signs
follow; and the rest. -/
def scanRaw (hashes : Nat) : List Char → List Char × List Char
  | [] => ([], [])
  | c :: rest =>
    if c = '"' ∧ rest.take hashes = List.replicate hashes '#' then ([], rest.drop hashes)
    else
      let (body, rest) := scanRaw hashes rest
      (c :: body, rest)

/-- The blanks that a line may begin with after a backslash. -/
def isIndent (c : Char) : Bool := c = ' ' || c = '\t' || c = '\n' || c = '\r'

/-- Joins the lines that a backslash at the end of a line continues. -/
def joinLines : (afterBreak : Bool) → List Char → List Char
  | _, [] => []
  | _, '\\' :: c :: rest =>
    if c = '\n' ∨ c = '\r' then joinLines true rest else '\\' :: c :: joinLines false rest
  | afterBreak, c :: rest =>
    if afterBreak && isIndent c then joinLines true rest else c :: joinLines false rest

/-- The character of a one-letter escape; every other character stands for itself. -/
def escapeMeaning (c : Char) : Char :=
  if c = 'n' then '\n'
  else if c = 'r' then '\r'
  else if c = 't' then '\t'
  else if c = '0' then '\x00'
  else c

/-- The characters that escapes stand for.  Between curly brackets `number?` is the number read so
far. -/
def unescape : (number? : Option Nat) → List Char → List Char
  | _, [] => []
  | some n, '\x7d' :: rest => Char.ofNat n :: unescape none rest
  | some n, c :: rest =>
    unescape (some (((Text.hexDigit? c).map fun d => n * 16 + d).getD n)) rest
  | none, '\\' :: 'u' :: '\x7b' :: rest => unescape (some 0) rest
  | none, '\\' :: 'x' :: high :: low :: rest =>
    Char.ofNat ((Text.hexDigit? high).getD 0 * 16 + (Text.hexDigit? low).getD 0) ::
      unescape none rest
  | none, '\\' :: c :: rest => escapeMeaning c :: unescape none rest
  | none, '\r' :: '\n' :: rest => '\n' :: unescape none rest
  | none, c :: rest => c :: unescape none rest

/-- What the body of a literal means. -/
def meaning (body : List Char) : String := String.ofList (unescape none (joinLines false body))

/-! ## Writing -/

/-- The characters of a text inside a literal. -/
def body : List Char → List Char
  | [] => []
  | '\x00' :: c :: rest =>
    (if '0' ≤ c ∧ c ≤ '7' then ['\\', 'x', '0', '0'] else Text.escaped '\x00') ++ body (c :: rest)
  | c :: rest => Text.escaped c ++ body rest

/-- The literal of a text. -/
def ofText (text : String) : String := String.ofList ('"' :: body text.toList ++ ['"'])

end RowBinding.Derive.Literal
