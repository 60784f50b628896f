/-!
# Names and blanks

Every name in this library (a field label, a member, a variant of an enumeration) is compared
without regard to the case of its ASCII letters, and without regard to nothing else: `é` and `É`
are different names.  Text that is read as a value loses its surrounding blanks first, where a
blank is a character with the Unicode property White_Space.
-/
namespace RowBinding.Text

/-- The characters of a name with the ASCII capital letters made small. -/
def folded (name : String) : List Char := name.toList.map Char.toLower

/-- Two names are the same when they differ at most in the case of ASCII letters. -/
def sameName (a b : String) : Bool := folded a == folded b

theorem sameName_iff {a b : String} : sameName a b = true ↔ folded a = folded b := by
  simp [sameName]

theorem sameName_refl (a : String) : sameName a a = true := sameName_iff.2 rfl

theorem sameName_symm {a b : String} (h : sameName a b = true) : sameName b a = true :=
  sameName_iff.2 (sameName_iff.1 h).symm

theorem sameName_trans {a b c : String} (h : sameName a b = true) (k : sameName b c = true) :
    sameName a c = true :=
  sameName_iff.2 ((sameName_iff.1 h).trans (sameName_iff.1 k))

/-- The characters with the Unicode property White_Space. -/
def isBlank (c : Char) : Bool :=
  let n := c.toNat
  (9 ≤ n && n ≤ 13) || n == 0x20 || n == 0x85 || n == 0xa0 || n == 0x1680 ||
    (0x2000 ≤ n && n ≤ 0x200a) || n == 0x2028 || n == 0x2029 || n == 0x202f || n == 0x205f ||
    n == 0x3000

/-- Without the blanks at the end. -/
def trimEnd (cs : List Char) : List Char := (cs.reverse.dropWhile isBlank).reverse

/-- Without the blanks at both ends. -/
def trim (cs : List Char) : List Char := trimEnd (cs.dropWhile isBlank)

/-- The characters of a text without the blanks at both ends. -/
def trimmed (text : String) : List Char := trim text.toList

/-- How many characters a message quotes of a long text. -/
def quotedLimit : Nat := 497

/-- A text as messages quote it: a text of at most `quotedLimit` characters stays whole, a longer
one is cut there, loses the blanks before the cut and ends in three dots. -/
def abbreviated (text : String) : String :=
  if text.toList.length ≤ quotedLimit then text
  else String.ofList (trimEnd (text.toList.take quotedLimit)) ++ "..."

/-- The bytes of a text in UTF-8. -/
def utf8 (text : String) : List UInt8 := text.toList.flatMap String.utf8EncodeChar

-- The sum of no numbers is the zero of the numbers themselves.
attribute [local instance (high)] Zero.ofOfNat0 in
/-- The length of a text in bytes of UTF-8. -/
def byteLength (cs : List Char) : Nat := (cs.map Char.utf8Size).sum

/-- A decimal digit of ASCII as a number. -/
def digit? (c : Char) : Option Nat :=
  if '0' ≤ c ∧ c ≤ '9' then some (c.toNat - '0'.toNat) else none

/-- A hexadecimal digit, in either case, as a number. -/
def hexDigit? (c : Char) : Option Nat :=
  if '0' ≤ c ∧ c ≤ '9' then some (c.toNat - '0'.toNat)
  else if 'a' ≤ c ∧ c ≤ 'f' then some (c.toNat - 'a'.toNat + 10)
  else if 'A' ≤ c ∧ c ≤ 'F' then some (c.toNat - 'A'.toNat + 10)
  else none

/-- The hexadecimal digit of a number below 16. -/
def hexDigit (n : Nat) : Char :=
  if n < 10 then Char.ofNat ('0'.toNat + n) else Char.ofNat ('a'.toNat + (n - 10))

/-- A byte as two hexadecimal digits. -/
def hexByte (b : UInt8) : List Char := [hexDigit (b.toNat / 16), hexDigit (b.toNat % 16)]

/-- Bytes as hexadecimal digits. -/
def hex (bytes : List UInt8) : String := String.ofList (bytes.flatMap hexByte)

/-- The bytes that pairs of hexadecimal digits write. -/
def hexBytes? : List Char → Option (List UInt8)
  | [] => some []
  | [_] => none
  | high :: low :: rest => do
    let h ← hexDigit? high
    let l ← hexDigit? low
    return UInt8.ofNat (h * 16 + l) :: (← hexBytes? rest)

/-- A natural number in decimal digits, at least `width` of them. -/
def padded (width n : Nat) : String :=
  let digits := Nat.toDigits 10 n
  String.ofList (List.replicate (width - digits.length) '0' ++ digits)

end RowBinding.Text
