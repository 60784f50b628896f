import RowBinding.Derive.Token
/-!
# Arguments of attributes

An attribute carries a list of arguments separated by commas, the last of which a comma may follow.
An argument is a path and whatever belongs to it.  The list is read from the left and every
argument counts as soon as it has been read; **reading stops at the first thing that is out of
place**, and the reader of the attribute decides what that means.
-/
namespace RowBinding.Derive

/-- What is wrong in a list of arguments. -/
inductive SyntaxFault where
  /-- Something other than a comma follows an argument or a name. -/
  | comma
  /-- An argument begins with a literal. -/
  | literalArgument
  /-- An argument begins with neither a literal nor a name. -/
  | signArgument
  /-- There is nothing after the sign that a path may begin with. -/
  | missingArgument
  /-- A path does not go on after `::`. -/
  | pathWord (atEnd : Bool)
  /-- The names of a constructor are missing. -/
  | parentheses (atEnd : Bool)
  /-- A name is missing. -/
  | word
  | keyword (name : String)
  | noFunction
  | unknownParameter (name : String)
  deriving DecidableEq, Repr

/-- A message, which says so when the text ended too early. -/
def SyntaxFault.atPlace (atEnd : Bool) (message : String) : String :=
  if atEnd then "unexpected end of input, " ++ message else message

def SyntaxFault.message : SyntaxFault → String
  | comma => "expected `,`"
  | literalArgument => "unexpected literal in nested attribute, expected ident"
  | signArgument => "unexpected token in nested attribute, expected ident"
  | missingArgument => atPlace true "expected nested attribute"
  | pathWord atEnd => atPlace atEnd "expected ident"
  | parentheses atEnd => atPlace atEnd "expected parentheses"
  | word => "expected identifier"
  | keyword name => "expected identifier, found keyword `" ++ name ++ "`"
  | noFunction => "A constructor needs a function name"
  | unknownParameter name => "Parameter `" ++ name ++ "` does not name a field of the struct"

/-! ## Paths -/

/-- The path of an argument. -/
structure ArgumentPath where
  /-- Whether it begins with `::`. -/
  rooted : Bool
  words : List String
  deriving DecidableEq, Repr

namespace ArgumentPath

def text (p : ArgumentPath) : String :=
  (if p.rooted then ":: " else "") ++ Text.joined " :: " p.words

/-- Whether the path is this one name. -/
def isWord (p : ArgumentPath) (name : String) : Bool := !p.rooted && p.words == [name]

/-- The words after the first one, and the rest. -/
def readMore : List Token → Except SyntaxFault (List String × List Token)
  | .sign ':' true :: .sign ':' _ :: .word name :: rest => do
    let (words, rest) ← readMore rest
    return (name :: words, rest)
  | .sign ':' true :: .sign ':' _ :: rest => .error (.pathWord rest.isEmpty)
  | rest => .ok ([], rest)

/-- What stands where a path should begin. -/
def faultAt : List Token → SyntaxFault
  | [] => .missingArgument
  | .literal _ _ :: _ => .literalArgument
  | .sign '-' _ :: .literal _ .number :: _ => .literalArgument
  | _ => .signArgument

def readWords (rooted : Bool) : List Token → Except SyntaxFault (ArgumentPath × List Token)
  | .word name :: rest => do
    let (words, rest) ← readMore rest
    return (⟨rooted, name :: words⟩, rest)
  | rest => .error (faultAt rest)

/-- The path at the beginning of a list, and the rest. -/
def read : List Token → Except SyntaxFault (ArgumentPath × List Token)
  | .sign ':' true :: .sign ':' _ :: rest => readWords true rest
  | rest => readWords false rest

end ArgumentPath

/-! ## Lists -/

/-- Why reading stopped before the end of a list. -/
inductive Stop where
  /-- No argument has this path. -/
  | unknown (path : ArgumentPath)
  /-- A name is given without a text. -/
  | badName
  | fault (f : SyntaxFault)
  deriving DecidableEq, Repr

/-- The arguments that have been read, and why no more were. -/
structure ArgumentList (β : Type) where
  arguments : List β
  stop : Option Stop
  deriving DecidableEq

namespace ArgumentList

variable {β : Type}

/-- With one more argument in front. -/
def cons (b : β) (l : ArgumentList β) : ArgumentList β := { l with arguments := b :: l.arguments }

/-- How what belongs to an argument is read, given its path. -/
abbrev Reader (β : Type) := ArgumentPath → List Token → Except Stop (β × List Token)

/-- The first argument of a list, and the rest. -/
def readFirst (reader : Reader β) (ts : List Token) : Except Stop (β × List Token) := do
  let (path, rest) ← (ArgumentPath.read ts).mapError Stop.fault
  reader path rest

/-- What follows an argument: the end, or a comma and the rest. -/
def afterComma : List Token → Except Stop (List Token)
  | [] => .ok []
  | .sign ',' _ :: rest => .ok rest
  | _ => .error (.fault .comma)

/-- The arguments of a list. -/
def read (reader : Reader β) (ts : List Token) : ArgumentList β :=
  if ts.isEmpty then ⟨[], none⟩
  else
    match readFirst reader ts with
    | .error stop => ⟨[], some stop⟩
    | .ok (b, after) =>
      match afterComma after with
      | .error stop => ⟨[b], some stop⟩
      | .ok rest => if _h : rest.length < ts.length then (read reader rest).cons b else ⟨[b], none⟩
termination_by ts.length
decreasing_by exact _h

end ArgumentList

/-! ## What belongs to an argument -/

/-- The text after an equals sign, and the rest. -/
def readText : List Token → Except Stop (String × List Token)
  | .sign '=' _ :: .literal _ (.text value) :: rest => .ok (value, rest)
  | _ => .error .badName

/-- Names separated by commas up to the closing bracket, and the rest behind it. -/
def readNames : List Token → Except SyntaxFault (List String × List Token)
  | .closing _ :: rest => .ok ([], rest)
  | .word name :: .sign ',' _ :: rest =>
    if keywords.contains name then .error (.keyword name)
    else do
      let (names, rest) ← readNames rest
      return (name :: names, rest)
  | .word name :: .closing _ :: rest =>
    if keywords.contains name then .error (.keyword name) else .ok ([name], rest)
  | .word name :: _ => .error (if keywords.contains name then .keyword name else .comma)
  | _ => .error .word

/-- Names in round brackets, and the rest behind them. -/
def readNameList : List Token → Except Stop (List String × List Token)
  | .opening .round :: rest => (readNames rest).mapError Stop.fault
  | ts => .error (.fault (.parentheses ts.isEmpty))

end RowBinding.Derive
