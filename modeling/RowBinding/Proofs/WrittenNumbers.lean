import RowBinding.Number.DecimalText
/-!
# Numbers that are written and read

Digits read back as the number that they write, with zeros in front or without.  **A numeral reads back as its integer
(`Numeral.read_chars`), and a decimal as itself with its scale (`Decimal.read_chars`)**; all that a decimal can lose is
the sign of a zero.
-/
namespace RowBinding

namespace Text

/-! ## Blanks -/

theorem isBlank_of_graphic {c : Char} (h : 33 ≤ c.toNat ∧ c.toNat ≤ 126) : isBlank c = false := by
  simp only [isBlank, Bool.or_eq_false_iff, Bool.and_eq_false_iff, decide_eq_false_iff_not, beq_eq_false_iff_ne]
  omega

theorem isBlank_of_isDigit {c : Char} (h : c.isDigit = true) : isBlank c = false := by
  simp only [Char.isDigit, ge_iff_le, Bool.and_eq_true, decide_eq_true_eq, UInt32.le_iff_toNat_le] at h
  have hlow : 48 ≤ c.toNat := h.1
  have hhigh : c.toNat ≤ 57 := h.2
  exact isBlank_of_graphic (by omega)

theorem dropWhile_eq_self {cs : List Char} (h : ∀ c, cs.head? = some c → isBlank c = false) : cs.dropWhile isBlank = cs := by
  cases cs with
  | nil => rfl
  | cons c cs => rw [List.dropWhile_cons_of_neg (by rw [h c rfl]; exact Bool.false_ne_true)]

theorem trim_eq_self {cs : List Char} (hhead : ∀ c, cs.head? = some c → isBlank c = false)
    (hlast : ∀ c, cs.getLast? = some c → isBlank c = false) : trim cs = cs := by
  have hreverse : ∀ c, cs.reverse.head? = some c → isBlank c = false := by
    rw [List.head?_reverse]
    exact hlast
  rw [trim, dropWhile_eq_self hhead, trimEnd, dropWhile_eq_self hreverse, List.reverse_reverse]

/-- No character is a blank. -/
def Solid (cs : List Char) : Prop := ∀ c ∈ cs, isBlank c = false

theorem solid_append {a b : List Char} (ha : Solid a) (hb : Solid b) : Solid (a ++ b) := fun c hc =>
  (List.mem_append.1 hc).elim (ha c) (hb c)

theorem solid_cons {c : Char} {cs : List Char} (hc : isBlank c = false) (hcs : Solid cs) : Solid (c :: cs) :=
  List.forall_mem_cons.2 ⟨hc, hcs⟩

theorem Solid.trim_eq {cs : List Char} (h : Solid cs) : trim cs = cs :=
  trim_eq_self (fun c hc => h c (List.mem_of_mem_head? hc)) fun c hc => h c (List.mem_of_getLast? hc)

/-- Blanks inside a text stay. -/
theorem trim_between {a b : List Char} (ha : Solid a) (hb : Solid b) (hnea : a ≠ []) (hneb : b ≠ []) (cs : List Char) :
    trim (a ++ (cs ++ b)) = a ++ (cs ++ b) := by
  apply trim_eq_self
  · intro c hc
    rw [List.head?_append, List.head?_eq_some_head hnea, Option.some_or] at hc
    exact ha c (Option.some.inj hc ▸ List.head_mem hnea)
  · intro c hc
    rw [← List.append_assoc, List.getLast?_append, List.getLast?_eq_some_getLast hneb, Option.some_or] at hc
    exact hb c (Option.some.inj hc ▸ List.getLast_mem hneb)

/-! ## Digits -/

/-- Every character is a decimal digit. -/
def Digits (cs : List Char) : Prop := ∀ c ∈ cs, c.isDigit = true

theorem Digits.solid {cs : List Char} (h : Digits cs) : Solid cs := fun c hc => isBlank_of_isDigit (h c hc)

theorem digit?_eq (c : Char) : digit? c = if c.isDigit then some (c.toNat - '0'.toNat) else none := by
  have hrange : ('0' ≤ c ∧ c ≤ '9') ↔ c.isDigit = true := by
    simp only [Char.isDigit, ge_iff_le, Bool.and_eq_true, decide_eq_true_eq, Char.le_def]
  simp only [digit?, hrange]

theorem digit?_of_isDigit {c : Char} (h : c.isDigit = true) : digit? c = some (c.toNat - '0'.toNat) := by
  rw [digit?_eq, if_pos h]

theorem isSome_digit? (c : Char) : (digit? c).isSome = c.isDigit := by
  rw [digit?_eq]
  cases c.isDigit <;> rfl

theorem digits_toDigits (n : Nat) : Digits (Nat.toDigits 10 n) := fun _ hc =>
  Nat.isDigit_of_mem_toDigits (by decide) (by decide) hc

theorem toList_padded (width n : Nat) : (padded width n).toList =
    List.replicate (width - (Nat.toDigits 10 n).length) '0' ++ Nat.toDigits 10 n := String.toList_ofList

theorem digits_padded (width n : Nat) : Digits (padded width n).toList := by
  intro c hc
  rw [toList_padded, List.mem_append] at hc
  rcases hc with hc | hc
  · obtain rfl := List.eq_of_mem_replicate hc
    rfl
  · exact digits_toDigits n c hc

/-- Zeros in front of a number do not change it. -/
theorem ofDigitChars_padded (width n : Nat) : Nat.ofDigitChars 10 (padded width n).toList 0 = n := by
  rw [toList_padded, Nat.ofDigitChars_append, Nat.ofDigitChars_replicate_zero, Nat.mul_zero, Nat.ofDigitChars_ten_toDigits]

theorem le_length_padded (width n : Nat) : width ≤ (padded width n).toList.length := by
  rw [toList_padded, List.length_append, List.length_replicate]
  omega

theorem padded_ne_nil {width n : Nat} (hwidth : 0 < width) : (padded width n).toList ≠ [] :=
  List.length_pos_iff.1 (Nat.lt_of_lt_of_le hwidth (le_length_padded width n))

theorem length_padded {width n : Nat} (hwidth : 0 < width) (h : n < 10 ^ width) : (padded width n).toList.length = width := by
  have hlength := (Nat.length_toDigits_le_iff (by decide) hwidth).2 h
  rw [toList_padded, List.length_append, List.length_replicate]
  omega

theorem padded_succ {width n : Nat} (hwidth : 0 < width) (h : 10 ^ width ≤ n) : padded (width + 1) n = padded width n := by
  have hlength : ¬ (Nat.toDigits 10 n).length ≤ width := fun hle =>
    Nat.not_lt.2 h ((Nat.length_toDigits_le_iff (by decide) hwidth).1 hle)
  have hzeros : width + 1 - (Nat.toDigits 10 n).length = width - (Nat.toDigits 10 n).length := by omega
  rw [padded, padded, hzeros]

end Text

namespace Numeral

open Text

variable {limit : Nat} {beyond : NumeralFault}

theorem le_ofDigitChars (cs : List Char) (acc : Nat) : acc ≤ Nat.ofDigitChars 10 cs acc := by
  rw [Nat.ofDigitChars_eq_ofDigitChars_zero]
  have hpos : 0 < 10 ^ cs.length := Nat.pow_pos (by decide)
  exact Nat.le_trans (Nat.le_mul_of_pos_left acc hpos) (Nat.le_add_right _ _)

/-- **What digits are read as is the number that they write**, if it is within the limit. -/
theorem readDigits_eq_ok_iff {cs : List Char} {acc n : Nat} (hacc : acc ≤ limit) :
    readDigits limit beyond acc cs = .ok n ↔ Digits cs ∧ n = Nat.ofDigitChars 10 cs acc ∧ n ≤ limit := by
  induction cs generalizing acc with
  | nil =>
    simp only [readDigits, Except.ok.injEq, Nat.ofDigitChars_nil]
    constructor
    · rintro rfl
      exact ⟨List.forall_mem_nil _, rfl, hacc⟩
    · exact fun h => h.2.1.symm
  | cons c cs ih =>
    rw [readDigits, digit?_eq, Nat.ofDigitChars_cons, Nat.mul_comm 10 acc]
    cases hc : c.isDigit with
    | false =>
      refine iff_of_false nofun fun h => ?_
      rw [h.1 c List.mem_cons_self] at hc
      cases hc
    | true =>
      have hdigits : Digits (c :: cs) ↔ Digits cs := by
        simp only [Digits, List.forall_mem_cons, hc, true_and]
      simp only [ite_true]
      split
      · rename_i hle
        rw [ih hle, hdigits]
      · rename_i hlt
        refine iff_of_false nofun fun h => hlt ?_
        exact Nat.le_trans (le_ofDigitChars cs _) (h.2.1 ▸ h.2.2)

theorem read_digits {cs : List Char} (hne : cs ≠ []) (hcs : Digits cs) (h : Nat.ofDigitChars 10 cs 0 ≤ largest) :
    read cs = .ok (Nat.ofDigitChars 10 cs 0 : Nat) := by
  have hhead : ∀ {c rest}, cs = c :: rest → c.isDigit = true := by
    rintro c rest rfl
    exact hcs c List.mem_cons_self
  unfold read
  split
  · exact absurd rfl hne
  · cases hhead rfl
  · cases hhead rfl
  · cases hhead rfl
  · cases hhead rfl
  · rw [(readDigits_eq_ok_iff (Nat.zero_le _)).2 ⟨hcs, rfl, h⟩]
    rfl

theorem read_minus {cs : List Char} (hne : cs ≠ []) (hcs : Digits cs) (h : Nat.ofDigitChars 10 cs 0 ≤ largestNegative) :
    read ('-' :: cs) = .ok (-(Nat.ofDigitChars 10 cs 0 : Nat)) := by
  cases cs with
  | nil => exact absurd rfl hne
  | cons c cs =>
    have hread : read ('-' :: c :: cs) = (readDigits largestNegative .tooSmall 0 (c :: cs)).map fun n => -(n : Int) := rfl
    rw [hread, (readDigits_eq_ok_iff (Nat.zero_le _)).2 ⟨hcs, rfl, h⟩]
    rfl

/-- **A numeral reads back as the integer that it writes.** -/
theorem read_chars {n : Int} (h : -(largestNegative : Int) ≤ n ∧ n ≤ largest) : read (chars n) = .ok n := by
  cases n with
  | ofNat n =>
    have hle : Nat.ofDigitChars 10 (digits n) 0 ≤ largest := by
      rw [digits, Nat.ofDigitChars_ten_toDigits]
      exact Int.ofNat_le.1 h.2
    have hread := read_digits Nat.toDigits_ne_nil (digits_toDigits n) hle
    rw [Nat.ofDigitChars_ten_toDigits] at hread
    exact hread
  | negSucc n =>
    have hle : Nat.ofDigitChars 10 (digits (n + 1)) 0 ≤ largestNegative := by
      rw [digits, Nat.ofDigitChars_ten_toDigits]
      omega
    have hread := read_minus Nat.toDigits_ne_nil (digits_toDigits (n + 1)) hle
    rw [Nat.ofDigitChars_ten_toDigits] at hread
    exact hread

end Numeral

namespace Decimal

open Text

/-! ## Decimals -/

/-- What has been read of a decimal when more digits have been read. -/
def Scan.past (s : Scan) (ds : List Char) : Scan :=
  ⟨Nat.ofDigitChars 10 ds s.mantissa, if s.point then s.scale + ds.length else s.scale, s.point,
    s.digit || !ds.isEmpty⟩

/-- **Digits are taken whole as long as mantissa and scale have room for them.** -/
theorem scan_digits {ds : List Char} (s : Scan) (rest : List Char) (hds : Digits ds)
    (hwhole : s.point = false → s.scale = 0) (hlimit : Nat.ofDigitChars 10 ds s.mantissa < mantissaLimit)
    (hroom : s.point = true → s.scale + ds.length ≤ maxScale) : scan s (ds ++ rest) = scan (s.past ds) rest := by
  induction ds generalizing s with
  | nil =>
    have hnil : s.past [] = s := by simp [Scan.past, Nat.ofDigitChars_nil]
    rw [hnil, List.nil_append]
  | cons c cs ih =>
    have hc := digit?_of_isDigit (hds c List.mem_cons_self)
    rw [Nat.ofDigitChars_cons, Nat.mul_comm] at hlimit
    have hnext : s.mantissa * 10 + (c.toNat - '0'.toNat) < mantissaLimit :=
      Nat.lt_of_le_of_lt (Numeral.le_ofDigitChars cs _) hlimit
    have hplace : s.point = true → s.scale < maxScale := by
      intro hpoint
      have hlength := hroom hpoint
      rw [List.length_cons] at hlength
      omega
    rw [List.cons_append, scan, hc]
    dsimp only
    -- Before the point the scale stays zero, and behind it every digit is one more place.
    rw [if_pos ⟨hnext, hplace⟩, ih _ (fun b hb => hds b (List.mem_cons_of_mem c hb)) ?_ hlimit ?_]
    · cases hpoint : s.point with
      | false => simp [Scan.past, hpoint, hwhole hpoint, Nat.ofDigitChars_cons, Nat.mul_comm]
      | true => simp [Scan.past, hpoint, Nat.ofDigitChars_cons, Nat.mul_comm, Nat.add_assoc, Nat.add_comm 1]
    · intro hpoint
      simp [show s.point = false from hpoint]
    · intro hpoint
      have hlength := hroom hpoint
      rw [List.length_cons] at hlength
      have hscale : (if s.point then s.scale + 1 else 0) = s.scale + 1 := if_pos hpoint
      show (if s.point then s.scale + 1 else 0) + cs.length ≤ maxScale
      omega

/-- A decimal without its sign if it is zero. -/
def unsignedZero (x : Decimal) : Decimal := { x with negative := x.negative && x.mantissa != 0 }

theorem numEq_unsignedZero (x : Decimal) : x.unsignedZero.numEq x = true := by
  have hsigned : x.unsignedZero.signed = x.signed := by
    unfold signed unsignedZero
    by_cases hzero : x.mantissa = 0 <;> simp [hzero]
  have hscale : x.unsignedZero.scale = x.scale := rfl
  rw [numEq, hsigned, hscale, beq_self_eq_true]

theorem ofParts?_eq (x : Decimal) : ofParts? x.negative x.mantissa x.scale = some x.unsignedZero :=
  dif_pos ⟨x.mantissa_lt, x.scale_le⟩

/-- The digits of a decimal, those before the point and those behind it. -/
def whole (x : Decimal) : List Char := x.paddedDigits.take (x.paddedDigits.length - x.scale)
def fraction (x : Decimal) : List Char := x.paddedDigits.drop (x.paddedDigits.length - x.scale)

theorem chars_eq (x : Decimal) : x.chars =
    (if x.negative then ['-'] else []) ++ (x.whole ++ (if x.scale = 0 then [] else '.' :: x.fraction)) :=
  List.append_assoc ..

theorem paddedDigits_eq (x : Decimal) : x.paddedDigits = (padded (x.scale + 1) x.mantissa).toList :=
  (toList_padded ..).symm

theorem whole_append_fraction (x : Decimal) : x.whole ++ x.fraction = x.paddedDigits := List.take_append_drop ..

theorem digits_paddedDigits (x : Decimal) : Digits x.paddedDigits := by
  rw [paddedDigits_eq]
  exact digits_padded _ _

theorem digits_whole (x : Decimal) : Digits x.whole := fun c hc => x.digits_paddedDigits c (List.mem_of_mem_take hc)

theorem digits_fraction (x : Decimal) : Digits x.fraction := fun c hc => x.digits_paddedDigits c (List.mem_of_mem_drop hc)

theorem scale_lt_length (x : Decimal) : x.scale < x.paddedDigits.length := by
  have := le_length_padded (x.scale + 1) x.mantissa
  rwa [← paddedDigits_eq] at this

theorem whole_ne_nil (x : Decimal) : x.whole ≠ [] := by
  have := x.scale_lt_length
  rw [← List.length_pos_iff, whole, List.length_take]
  omega

theorem length_fraction (x : Decimal) : x.fraction.length = x.scale := by
  have := x.scale_lt_length
  rw [fraction, List.length_drop]
  omega

theorem ofDigitChars_paddedDigits (x : Decimal) : Nat.ofDigitChars 10 x.paddedDigits 0 = x.mantissa := by
  rw [paddedDigits_eq, ofDigitChars_padded]

/-- **The digits of a decimal are read as its mantissa and its scale.** -/
theorem scan_digits_of (x : Decimal) :
    scan ⟨0, 0, false, false⟩ (x.whole ++ (if x.scale = 0 then [] else '.' :: x.fraction)) = .ok (x.mantissa, x.scale) := by
  have hmantissa : Nat.ofDigitChars 10 x.fraction (Nat.ofDigitChars 10 x.whole 0) = x.mantissa := by
    rw [← Nat.ofDigitChars_append, whole_append_fraction, ofDigitChars_paddedDigits]
  have hwhole : Nat.ofDigitChars 10 x.whole 0 < mantissaLimit :=
    Nat.lt_of_le_of_lt (Numeral.le_ofDigitChars x.fraction _) (hmantissa ▸ x.mantissa_lt)
  have hdigit : (!x.whole.isEmpty) = true := by simp [x.whole_ne_nil]
  rw [scan_digits _ _ x.digits_whole (fun _ => rfl) hwhole fun h => absurd h Bool.false_ne_true]
  split
  · rename_i hscale
    have hnone : x.fraction = [] := List.length_eq_zero_iff.1 (x.length_fraction.trans hscale)
    rw [hnone, Nat.ofDigitChars_nil] at hmantissa
    simp [scan, Scan.past, hdigit, hmantissa, hscale]
  · have hpoint : scan (Scan.past ⟨0, 0, false, false⟩ x.whole) ('.' :: x.fraction) =
        scan ⟨Nat.ofDigitChars 10 x.whole 0, 0, true, !x.whole.isEmpty⟩ (x.fraction ++ []) := by
      rw [List.append_nil]
      rfl
    rw [hpoint, scan_digits _ _ x.digits_fraction (fun h => absurd h.symm Bool.false_ne_true) (hmantissa ▸ x.mantissa_lt)]
    · simp [scan, Scan.past, hdigit, hmantissa, length_fraction]
    · intro _
      rw [length_fraction, Nat.zero_add]
      exact x.scale_le

theorem readPlain_minus (cs : List Char) :
    readPlain ('-' :: cs) = scan ⟨0, 0, false, false⟩ cs >>= fun parts => ofParts true parts.1 parts.2 := rfl

theorem readPlain_of_isDigit {c : Char} (hc : c.isDigit = true) (cs : List Char) :
    readPlain (c :: cs) = scan ⟨0, 0, false, false⟩ (c :: cs) >>= fun parts => ofParts false parts.1 parts.2 := by
  unfold readPlain
  split
  · contradiction
  · rename_i heq
    rw [(List.cons.inj heq).1] at hc
    cases hc
  · rename_i heq
    rw [(List.cons.inj heq).1] at hc
    cases hc
  · rfl

theorem readPlain_chars (x : Decimal) : readPlain x.chars = .ok x.unsignedZero := by
  have hparts : ofParts x.negative x.mantissa x.scale = .ok x.unsignedZero := by rw [ofParts, ofParts?_eq]
  have hscan := x.scan_digits_of
  rw [chars_eq]
  cases hnegative : x.negative with
  | true =>
    rw [if_pos rfl, List.singleton_append, readPlain_minus, hscan, ← hparts, hnegative]
    rfl
  | false =>
    obtain ⟨c, cs, hwhole⟩ := List.exists_cons_of_ne_nil x.whole_ne_nil
    have hc : c.isDigit = true := x.digits_whole c (hwhole ▸ List.mem_cons_self)
    rw [hwhole, List.cons_append] at hscan
    rw [if_neg Bool.false_ne_true, List.nil_append, hwhole, List.cons_append, readPlain_of_isDigit hc, hscan, ← hparts,
      hnegative]
    rfl

/-- **A decimal reads back with its scale**, a zero without its sign. -/
theorem read_chars (x : Decimal) : read x.chars = .ok x.unsignedZero := by
  rw [read, readPlain_chars]

end Decimal

end RowBinding
