import RowBinding.Derive.Canonical.Ahead
import RowBinding.Derive.Canonical.Part
import RowBinding.Number.Numeral
/-!
# What reading a part gives

A part that has been read is written in its canonical form, and the tokens it has not taken are
still to come.  **What is written is made of what was read and never changes what comes next.**  So
the order of arguments, round brackets and tokens that are kept are matters of writing alone.
-/
namespace RowBinding.Derive.Canonical

/-- What reading a part gives. -/
structure Reading where
  written : List Token
  /-- The tokens that are still to come. -/
  rest : List Token
  /-- How the form that the part stands in is written. -/
  manner : Manner
  deriving DecidableEq

/-- The manner that two parts of a form give it: the one that keeps more. -/
def Manner.with : Manner → Manner → Manner
  | kept, _ | _, kept => kept
  | grouped, _ | _, grouped => grouped
  | bracketed, _ | _, bracketed => bracketed
  | plain, plain => plain

/-- Tokens in round brackets. -/
def inBrackets (ts : List Token) : List Token := .opening .round :: ts ++ [.closing .round]

namespace Reading

/-- Nothing has been read. -/
def nothing (ts : List Token) : Reading := ⟨[], ts, .plain⟩

def ofTaken (p : List Token × List Token) : Reading := ⟨p.1, p.2, .plain⟩

/-- What is read next, after what has been read. -/
def followed (r : Reading) (next : List Token → Reading) : Reading :=
  let s := next r.rest
  ⟨r.written ++ s.written, s.rest, r.manner.with s.manner⟩

/-- A form that began with these tokens, in the manner that has come up in it. -/
def formed (ts : List Token) (r : Reading) : Reading :=
  match r.manner with
  | .plain => r
  | .bracketed => ⟨inBrackets r.written, r.rest, .plain⟩
  | .grouped =>
    let attributes := attributeTokens r.written
    ⟨r.written.take attributes ++ inBrackets (r.written.drop attributes), r.rest, .plain⟩
  | .kept => ⟨ts.take (ts.length - r.rest.length), r.rest, .plain⟩

/-- The type of a cast.  Where it ends with a word, an angle bracket behind it would seem to open a
list of arguments. -/
def ofCastType (r : Reading) : Reading :=
  match r.written.getLast? with
  | some (.word name) =>
    if name ≠ "_" ∧ atAngle r.rest then { r with manner := .bracketed } else r
  | _ => r

end Reading

/-! ## Taking tokens -/

/-- A token that no sign is joined to. -/
def apart : Token → Token
  | .sign c _ => .sign c false
  | t => t

/-- The next token. -/
def takeOne : List Token → List Token × List Token
  | [] => ([], [])
  | t :: rest => ([apart t], rest)

/-- The next token, if it is due. -/
def takeIf (due : Bool) (ts : List Token) : List Token × List Token :=
  if due then takeOne ts else ([], ts)

/-- The next signs as one operator, and the rest. -/
def takeOperator : (signs : Nat) → List Token → List Token × List Token
  | signs + 2, .sign c _ :: rest =>
    let (taken, rest) := takeOperator (signs + 1) rest
    (.sign c true :: taken, rest)
  | 1, t :: rest => ([apart t], rest)
  | _, ts => ([], ts)

/-- A bracket and all it encloses, and the rest. -/
def takeEnclosed (ts : List Token) : List Token × List Token :=
  let rest := afterEnclosed 0 ts
  (ts.take (ts.length - rest.length), rest)

/-- The operator of a range with its end. -/
def closedRange : List Token := [.sign '.' true, .sign '.' true, .sign '=' false]

/-! ## Positions -/

/-- The digits of a number without the signs that only mark its base, and the base. -/
def baseOf : List Char → Nat × List Char
  | '0' :: 'x' :: digits => (16, digits)
  | '0' :: 'o' :: digits => (8, digits)
  | '0' :: 'b' :: digits => (2, digits)
  | digits => (10, digits)

/-- A position as it is written: in base ten, with no more digits than it needs. -/
def position (digits : List Char) : Token :=
  let (base, digits) := baseOf digits
  let value := (digits.filterMap Text.hexDigit?).foldl (fun n d => n * base + d) 0
  .literal (Numeral.text value) .number

/-- The positions in a number with the points between them. -/
def positions : (digits : List Char) → List Char → List Token
  | digits, [] => if digits.isEmpty then [] else [position digits]
  | digits, c :: rest =>
    if c = '.' then position digits :: .sign '.' false :: positions [] rest
    else positions (digits ++ [c]) rest

/-- Positions written like one number. -/
def takePositions : List Token → List Token × List Token
  | .literal source _ :: rest => (positions [] source.toList, rest)
  | ts => ([], ts)

/-! ## Lists -/

/-- Whether a list ends here that no bracket closes. -/
def closes (closer : Closer) (ts : List Token) : Bool :=
  match closer with
  | .bracket => false
  | .angle => spells ['>'] ts
  | .bar => spells ['|'] ts
  | .body => atBody ts

/-- Items, so many at most with the signs between them, that a function reads. -/
def readList (each : List Token → Reading) (closer : Closer) : (items : Nat) → List Token → Reading
  | 0, ts => .nothing ts
  | items + 1, ts =>
    if atEnd ts || closes closer ts then .nothing ts
    else if spells [','] ts || spells [';'] ts then
      (Reading.ofTaken (takeOne ts)).followed (readList each closer items)
    else
      let first := each ts
      if first.rest.length < ts.length then first.followed (readList each closer items) else first

/-! ## Arguments in their order -/

/-- An argument or a parameter as it is written, the comma behind it included. -/
structure Arranged where
  written : List Token
  lifetime : Bool
  deriving DecidableEq

/-- Whether a lifetime comes next, and not a type that is bounded by it. -/
def atLifetimeItem (ts : List Token) : Bool :=
  atLifetime (bare ts) && !spells ['+'] ((bare ts).drop 1)

/-- Items up to the angle bracket that closes them, so many at most, and the rest. -/
def readItems (each : List Token → Reading) : (items : Nat) → List Token →
    List Arranged × List Token
  | 0, ts => ([], ts)
  | items + 1, ts =>
    if atEnd ts || closes .angle ts then ([], ts)
    else
      let item := (each ts).followed fun rest => .ofTaken (takeIf (spells [','] rest) rest)
      let first : Arranged := ⟨item.written, atLifetimeItem ts⟩
      if item.rest.length < ts.length then
        let (more, rest) := readItems each items item.rest
        (first :: more, rest)
      else ([first], item.rest)

/-- With a comma behind it. -/
def withComma (written : List Token) : List Token :=
  if written.getLast?.any (·.isSign ',') then written else written ++ [.sign ',' false]

/-- Items with the lifetimes first.  Where others follow, each lifetime has a comma behind it. -/
def lifetimesFirst (items : List Arranged) : List Token :=
  let (lifetimes, others) := items.partition (·.lifetime)
  let lifetimes := lifetimes.map (·.written)
  (if others.isEmpty then lifetimes else lifetimes.map withComma).flatten ++
    (others.map (·.written)).flatten

/-- Items as a function reads them, with the lifetimes first. -/
def readArranged (each : List Token → Reading) (ts : List Token) : Reading :=
  let (items, rest) := readItems each ts.length ts
  ⟨lifetimesFirst items, rest, .plain⟩

end RowBinding.Derive.Canonical
