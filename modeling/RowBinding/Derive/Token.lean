import RowBinding.Text.Joined
/-!
# Tokens

Declarations are read and code is written as tokens.  Brackets are tokens of their own: whoever
reads a list of tokens sees at once whether the list it is in has come to its end.

Written on one line, tokens are separated by single spaces, except inside round and square
brackets and after a sign that is joined to the next one.
-/
namespace RowBinding.Derive

/-- The words that are no names. -/
def keywords : List String :=
  ["_", "abstract", "as", "async", "await", "become", "box", "break", "const", "continue", "crate",
    "do", "dyn", "else", "enum", "extern", "false", "final", "fn", "for", "if", "impl", "in", "let",
    "loop", "macro", "match", "mod", "move", "mut", "override", "priv", "pub", "ref", "return",
    "Self", "self", "static", "struct", "super", "trait", "true", "try", "type", "typeof",
    "unsafe", "unsized", "use", "virtual", "where", "while", "yield"]

/-- The kinds of brackets. -/
inductive Bracket where
  | round
  | square
  | curly
  deriving DecidableEq, Repr

/-- What a literal stands for, as far as a declaration asks. -/
inductive LiteralKind where
  /-- A text, plain or raw, with the text it means. -/
  | text (value : String)
  | number
  | other
  deriving DecidableEq, Repr

/-- The smallest pieces of source text. -/
inductive Token where
  /-- A name or a keyword; a raw name keeps its `r#`. -/
  | word (name : String)
  | lifetime (name : String)
  | literal (source : String) (kind : LiteralKind)
  /-- A sign, and whether it is joined to the sign that follows it. -/
  | sign (c : Char) (joined : Bool)
  | opening (b : Bracket)
  | closing (b : Bracket)
  deriving DecidableEq, Repr

namespace Bracket

def openingText : Bracket → String
  | round => "("
  | square => "["
  | curly => "\x7b"

def closingText : Bracket → String
  | round => ")"
  | square => "]"
  | curly => "\x7d"

end Bracket

namespace Token

def text : Token → String
  | word name => name
  | lifetime name => "'" ++ name
  | literal source _ => source
  | sign c _ => String.ofList [c]
  | opening b => b.openingText
  | closing b => b.closingText

/-- Whether no space stands between two tokens. -/
def adjoins : Token → Token → Bool
  | opening b, _ => b ≠ .curly
  | sign _ true, _ => true
  | _, closing b => b ≠ .curly
  | _, _ => false

/-- Tokens on one line. -/
def line : List Token → String
  | [] => ""
  | [t] => t.text
  | t :: u :: rest => t.text ++ (if t.adjoins u then "" else " ") ++ line (u :: rest)

/-- Whether a token is this sign. -/
def isSign (c : Char) : Token → Bool
  | sign d _ => c == d
  | _ => false

/-- Whether a token is a sign that is joined to the next one. -/
def isJoined : Token → Bool
  | sign _ joined => joined
  | _ => false

/-- Tokens on one line, with a text behind them. -/
def lineBefore (text : String) (ts : List Token) : String :=
  line ts ++ (if ts.getLast?.any isJoined then "" else " ") ++ text

end Token

end RowBinding.Derive
