import RowBinding.Text.Basic
import RowBinding.Number.Numeral
/-!
# Universally unique identifiers

An identifier is sixteen bytes.  It is written in five groups of hexadecimal digits; it is read in
that form, without the hyphens, in curly brackets or after `urn:uuid:`.  **What is wrong with a
text is decided in a fixed order**: its length, its first character that cannot occur, the number
of its groups, the length of its groups.
-/
namespace RowBinding

/-- An identifier. -/
structure Uuid where
  bytes : List UInt8
  length_eq : bytes.length = 16
  deriving DecidableEq

/-- Why a text is no identifier. -/
inductive UuidFault where
  | length (found : Nat)
  | character (found : Char) (index : Nat)
  | groupCount (found : Nat)
  | groupLength (group expected found : Nat)
  deriving DecidableEq, Repr

def UuidFault.message : UuidFault → String
  | .length found => "invalid length: found " ++ Numeral.text found
  | .character found index =>
    "invalid character: found `" ++ String.ofList [found] ++ "` at " ++ Numeral.text index
  | .groupCount found => "invalid group count: expected 5, found " ++ Numeral.text found
  | .groupLength group expected found =>
    "invalid group length in group " ++ Numeral.text group ++ ": expected " ++
      Numeral.text expected ++ ", found " ++ Numeral.text found

namespace Uuid

/-- The identifier of these bytes, if there are sixteen. -/
def ofBytes? (bytes : List UInt8) : Option Uuid :=
  if h : bytes.length = 16 then some ⟨bytes, h⟩ else none

/-- The identifier of zeros. -/
def nil : Uuid := ⟨List.replicate 16 0, by decide⟩

/-- Five groups of small hexadecimal digits. -/
def text (u : Uuid) : String :=
  let digits := u.bytes.flatMap Text.hexByte
  let group (start size : Nat) := (digits.drop start).take size
  String.ofList (group 0 8 ++ '-' :: group 8 4 ++ '-' :: group 12 4 ++ '-' :: group 16 4 ++
    '-' :: group 20 12)

/-! ## Reading -/

/-- Thirty-two digits. -/
def ofDigits? (cs : List Char) : Option Uuid :=
  if cs.length = 32 then (Text.hexBytes? cs).bind ofBytes? else none

/-- The length of five groups with hyphens between them. -/
def groupedLength : Nat := 36

/-- Five groups with hyphens between them. -/
def ofGroups? (cs : List Char) : Option Uuid :=
  if cs.length = groupedLength ∧ cs[8]? = some '-' ∧ cs[13]? = some '-' ∧ cs[18]? = some '-' ∧
      cs[23]? = some '-' then
    ofDigits? (cs.take 8 ++ (cs.drop 9).take 4 ++ (cs.drop 14).take 4 ++ (cs.drop 19).take 4 ++
      cs.drop 24)
  else none

/-- What stands between curly brackets. -/
def unbraced? (cs : List Char) : Option (List Char) :=
  match cs with
  | '\x7b' :: rest => if rest.getLast? = some '\x7d' then some rest.dropLast else none
  | _ => none

/-- What follows the name of the namespace of identifiers. -/
def unnamed? (cs : List Char) : Option (List Char) :=
  let mark := "urn:uuid:".toList
  if (cs.take mark.length).map Char.toLower = mark then some (cs.drop mark.length) else none

/-- The forms with hyphens in a frame. -/
def framed? (cs : List Char) : Option (List Char) :=
  if Text.byteLength cs = 38 then unbraced? cs
  else if Text.byteLength cs = 45 then unnamed? cs
  else none

/-- A text in one of the four forms. -/
def read? (cs : List Char) : Option Uuid :=
  match framed? cs with
  | some inner => ofGroups? inner
  | none => (ofDigits? cs).orElse fun _ => ofGroups? cs

/-! ## Faults -/

/-- The positions in bytes of the characters of a text. -/
def positions : (start : Nat) → List Char → List (Nat × Char)
  | _, [] => []
  | start, c :: cs => (start, c) :: positions (start + c.utf8Size) cs

/-- The group lengths, the ends of the first four groups and the starts of all five. -/
def groupLengths : List Nat := [8, 4, 4, 4, 12]
def groupEnds : List Nat := [8, 13, 18, 23]
def groupStarts : List Nat := [0, 9, 14, 19, 24]

/-- The first group that does not end where it should. -/
def groupFault (hyphens : List Nat) (size : Nat) : UuidFault :=
  let groups := (hyphens.zip groupEnds).zip (groupStarts.zip groupLengths)
  match groups.zipIdx.find? fun g => g.1.1.1 != g.1.1.2 with
  | some (((hyphen, _), start, expected), group) => .groupLength group expected (hyphen - start)
  | none => .groupLength 4 12 (size - 24)

/-- A text without the frame around it, how many bytes that frame takes at its start, and whether
there was one. -/
def unframed (cs : List Char) : List Char × Nat × Bool :=
  match unbraced? cs, unnamed? cs with
  | some inner, _ => (inner, 1, true)
  | none, some inner => (inner, 9, true)
  | none, none => (cs, 0, false)

/-- The longest text that is looked into. -/
def lengthLimit : Nat := 45

/-- Why a text is no identifier.  What stood in a frame of the right length is judged alone, and so
is a text that has the length of the groups: a frame in it would be part of the groups.  Groups are
expected in both, and in no other text without hyphens. -/
def fault (cs : List Char) : UuidFault :=
  let judged := (framed? cs).getD cs
  let size := Text.byteLength judged
  let (inner, skipped, grouped) :=
    if size = groupedLength then (judged, 0, true) else unframed judged
  if size = 0 ∨ lengthLimit < size then .length size
  else
    match (positions skipped inner).find? fun p => !((Text.hexDigit? p.2).isSome || p.2 == '-') with
    | some (index, c) => .character c index
    | none =>
      let hyphens := (positions 0 inner).filterMap fun p => if p.2 = '-' then some p.1 else none
      if hyphens.isEmpty ∧ ¬ grouped then .length size
      else if hyphens.length ≠ 4 then .groupCount (hyphens.length + 1)
      else groupFault hyphens size

/-- Reads an identifier. -/
def read (cs : List Char) : Except UuidFault Uuid :=
  match read? cs with
  | some u => .ok u
  | none => .error (fault cs)

end Uuid

end RowBinding
