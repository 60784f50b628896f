import Mathlib.Data.List.TakeWhile
import RowBinding.Proofs.ExactConversions
import RowBinding.Proofs.TextColumns
/-!
# Texts that are read

A text loses the blanks around it before it is read.  What is left is a numeral if it is a sign or none and then digits,
one at least.  **An integer type takes exactly the numerals of its integers, an enumeration the names of its variants
and the numerals of its discriminants, and truth values have three words each** (`Value.convert_text_iff`); every other
text is refused.
-/
namespace RowBinding

/-! ## Surrounding blanks -/

namespace Text

/-- Blanks and nothing else. -/
def Blanks (cs : List Char) : Prop := ∀ c ∈ cs, isBlank c = true

instance (cs : List Char) : Decidable (Blanks cs) := decidable_of_iff (cs.all isBlank = true) List.all_eq_true

/-- No blank at either end. -/
def Bare (cs : List Char) : Prop :=
  (∀ c, cs.head? = some c → isBlank c = false) ∧ ∀ c, cs.getLast? = some c → isBlank c = false

/-- The text is these characters with blanks around them. -/
def Encloses (text : String) (body : List Char) : Prop :=
  Bare body ∧ ∃ before after, Blanks before ∧ Blanks after ∧ text.toList = before ++ (body ++ after)

theorem dropWhile_blanks_append {before : List Char} (h : Blanks before) (cs : List Char) :
    (before ++ cs).dropWhile isBlank = cs.dropWhile isBlank := List.dropWhile_append_of_pos h

theorem trimEnd_append_blanks (cs : List Char) {after : List Char} (h : Blanks after) :
    trimEnd (cs ++ after) = trimEnd cs := by
  have hreverse : Blanks after.reverse := fun c hc => h c (List.mem_reverse.1 hc)
  rw [trimEnd, List.reverse_append, dropWhile_blanks_append hreverse, ← trimEnd]

theorem trim_enclosed {before body after : List Char} (hbefore : Blanks before) (hafter : Blanks after)
    (hbody : Bare body) : trim (before ++ (body ++ after)) = body := by
  rw [trim, dropWhile_blanks_append hbefore]
  cases body with
  | nil =>
    have hnone : after.dropWhile isBlank = [] := List.dropWhile_eq_nil_iff.2 hafter
    rw [List.nil_append, hnone]
    rfl
  | cons c cs =>
    have hhead : isBlank c = false := hbody.1 c rfl
    have hwhole : (c :: cs ++ after).dropWhile isBlank = c :: cs ++ after := by
      rw [List.cons_append, List.dropWhile_cons_of_neg (by simp [hhead])]
    have htrim : trim (c :: cs) = trimEnd (c :: cs) := by
      rw [trim, List.dropWhile_cons_of_neg (by simp [hhead])]
    rw [hwhole, trimEnd_append_blanks _ hafter, ← htrim]
    exact trim_eq_self hbody.1 hbody.2

theorem blanks_takeWhile (cs : List Char) : Blanks (cs.takeWhile isBlank) := fun _ hc => List.mem_takeWhile_imp hc

/-- At its end a text has nothing but blanks that `trimEnd` takes away. -/
theorem trimEnd_append_takeWhile (cs : List Char) : trimEnd cs ++ (cs.reverse.takeWhile isBlank).reverse = cs := by
  rw [trimEnd, ← List.reverse_append, List.takeWhile_append_dropWhile, List.reverse_reverse]

theorem head?_dropWhile_not_blank {cs : List Char} {c : Char} (h : (cs.dropWhile isBlank).head? = some c) :
    isBlank c = false := by
  have hnot := List.head?_dropWhile_not isBlank cs
  rw [h] at hnot
  simpa using hnot

/-- **What is left of a text is all of it but the blanks around it.** -/
theorem encloses_iff {text : String} {body : List Char} : Encloses text body ↔ trimmed text = body := by
  constructor
  · rintro ⟨hbody, before, after, hbefore, hafter, htext⟩
    rw [trimmed, htext, trim_enclosed hbefore hafter hbody]
  · rintro rfl
    have hfront := List.takeWhile_append_dropWhile (p := isBlank) (l := text.toList)
    generalize hrest : text.toList.dropWhile isBlank = rest at hfront
    have hback : trimEnd rest ++ (rest.reverse.takeWhile isBlank).reverse = rest := trimEnd_append_takeWhile rest
    have htrimmed : trimmed text = trimEnd rest := by rw [trimmed, trim, hrest]
    rw [htrimmed]
    refine ⟨⟨fun c hc => ?_, fun c hc => ?_⟩, _, (rest.reverse.takeWhile isBlank).reverse, blanks_takeWhile text.toList,
      fun c hc => blanks_takeWhile rest.reverse c (List.mem_reverse.1 hc), by rw [hback, hfront]⟩
    · have hhead : rest.head? = some c := by
        rw [← hback, List.head?_append, hc]
        rfl
      exact head?_dropWhile_not_blank (hrest ▸ hhead)
    · rw [trimEnd, List.getLast?_reverse] at hc
      exact head?_dropWhile_not_blank hc

end Text

/-! ## Numerals -/

namespace Numeral

open Text (Digits)

/-- The characters are a numeral of an integer. -/
inductive Denotes : List Char → ℤ → Prop
  | unsigned {ds : List Char} (hne : ds ≠ []) (hds : Digits ds) : Denotes ds (Nat.ofDigitChars 10 ds 0 : ℕ)
  | plus {ds : List Char} (hne : ds ≠ []) (hds : Digits ds) : Denotes ('+' :: ds) (Nat.ofDigitChars 10 ds 0 : ℕ)
  | minus {ds : List Char} (hne : ds ≠ []) (hds : Digits ds) : Denotes ('-' :: ds) (-(Nat.ofDigitChars 10 ds 0 : ℕ))

theorem map_cast (x : Except NumeralFault ℕ) (sign : ℤ → ℤ) :
    Except.map sign (do let m ← x; pure (m : ℤ)) = x.map fun m : ℕ => sign m := by
  cases x <;> rfl

theorem map_readDigits_eq_ok_iff {limit : ℕ} {beyond : NumeralFault} {cs : List Char} {sign : ℕ → ℤ} {n : ℤ} :
    (readDigits limit beyond 0 cs).map sign = .ok n ↔
      Digits cs ∧ n = sign (Nat.ofDigitChars 10 cs 0) ∧ Nat.ofDigitChars 10 cs 0 ≤ limit := by
  have hread {m : ℕ} : readDigits limit beyond 0 cs = .ok m ↔
      Digits cs ∧ m = Nat.ofDigitChars 10 cs 0 ∧ m ≤ limit := readDigits_eq_ok_iff (Nat.zero_le limit)
  cases hcs : readDigits limit beyond 0 cs with
  | error fault =>
    refine iff_of_false nofun fun h => ?_
    rw [hread.2 ⟨h.1, rfl, h.2.2⟩] at hcs
    cases hcs
  | ok m =>
    obtain ⟨hdigits, rfl, hle⟩ := hread.1 hcs
    constructor
    · intro h
      exact ⟨hdigits, (Except.ok.inj h).symm, hle⟩
    · rintro ⟨-, rfl, -⟩
      rfl

/-- **What is read as an integer are its numerals**, and no integer has more than 128 bits. -/
theorem read_eq_ok_iff {cs : List Char} {n : ℤ} :
    read cs = .ok n ↔ Denotes cs n ∧ -(largestNegative : ℤ) ≤ n ∧ n ≤ largest := by
  constructor
  · intro h
    unfold read at h
    simp only [map_cast] at h
    split at h
    · cases h
    · cases h
    · cases h
    · rename_i hne
      obtain ⟨hdigits, rfl, hle⟩ := map_readDigits_eq_ok_iff.1 h
      exact ⟨.plus (by rintro rfl; exact hne rfl) hdigits, by omega, by omega⟩
    · rename_i hne
      obtain ⟨hdigits, rfl, hle⟩ := map_readDigits_eq_ok_iff.1 h
      exact ⟨.minus (by rintro rfl; exact hne rfl) hdigits, by omega, by omega⟩
    · rename_i hne _ _ _ _
      obtain ⟨hdigits, rfl, hle⟩ := map_readDigits_eq_ok_iff.1 h
      exact ⟨.unsigned (by rintro rfl; exact hne rfl) hdigits, by omega, by omega⟩
  · rintro ⟨hdenotes, hmin, hmax⟩
    cases hdenotes with
    | unsigned hne hds => exact read_digits hne hds (by omega)
    | minus hne hds => exact read_minus hne hds (by omega)
    | @plus ds hne hds =>
      obtain ⟨c, rest, rfl⟩ := List.exists_cons_of_ne_nil hne
      have hread : read ('+' :: c :: rest) = (readDigits largest .tooLarge 0 (c :: rest)).map fun m : ℕ => (m : ℤ) :=
        map_cast _ _
      rw [hread, map_readDigits_eq_ok_iff]
      exact ⟨hds, rfl, by omega⟩

end Numeral

/-! ## Names and words -/

namespace EnumDef

variable {e : EnumDef} {name : String}

/-- The variant is the first one of this name. -/
def FirstNamed (e : EnumDef) (name : String) (v : Variant) : Prop :=
  ∃ before after, e.variants = before ++ v :: after ∧ Text.sameName v.name name = true ∧
    ∀ u ∈ before, Text.sameName u.name name = false

/-- No variant has this name. -/
def NoneNamed (e : EnumDef) (name : String) : Prop := ∀ u ∈ e.variants, Text.sameName u.name name = false

theorem discriminantOf?_eq_some_iff {n : Discriminant} :
    e.discriminantOf? name = some n ↔ ∃ v, e.FirstNamed name v ∧ n = v.discriminant := by
  simp only [discriminantOf?, Option.map_eq_some_iff, List.find?_eq_some_iff_append, FirstNamed, Bool.not_eq_true']
  constructor
  · rintro ⟨v, ⟨hname, before, after, hvariants, hbefore⟩, rfl⟩
    exact ⟨v, ⟨before, after, hvariants, hname, hbefore⟩, rfl⟩
  · rintro ⟨v, ⟨before, after, hvariants, hname, hbefore⟩, rfl⟩
    exact ⟨v, ⟨hname, before, after, hvariants, hbefore⟩, rfl⟩

theorem discriminantOf?_eq_none_iff : e.discriminantOf? name = none ↔ e.NoneNamed name := by
  simp only [discriminantOf?, Option.map_eq_none_iff, List.find?_eq_none, NoneNamed, Bool.not_eq_true]

end EnumDef

namespace Text

/-- The words for the two truth values. -/
def Says : Bool → String → Prop
  | true, word => sameName word "true" = true ∨ sameName word "t" = true ∨ word = "1"
  | false, word => sameName word "false" = true ∨ sameName word "f" = true ∨ word = "0"

theorem not_says_both {word : String} (hfalse : Says false word) : ¬ Says true word := by
  intro htrue
  have hno : folded word = folded "false" ∨ folded word = folded "f" ∨ folded word = folded "0" :=
    hfalse.imp sameName_iff.1 (.imp sameName_iff.1 (congrArg folded))
  have hyes : folded word = folded "true" ∨ folded word = folded "t" ∨ folded word = folded "1" :=
    htrue.imp sameName_iff.1 (.imp sameName_iff.1 (congrArg folded))
  rcases hno with hno | hno | hno <;> rw [hno] at hyes <;> revert hyes <;> decide

/-- **A truth value is read from its words.** -/
theorem readBoolean_eq_some_iff {cs : List Char} {b : Bool} :
    Datum.readBoolean cs = some b ↔ Says b (String.ofList cs) := by
  unfold Datum.readBoolean
  generalize String.ofList cs = word
  have htrue : (sameName word "true" || sameName word "t" || word == "1") = true ↔ Says true word := by
    simp [Says, or_assoc]
  have hfalse : (sameName word "false" || sameName word "f" || word == "0") = true ↔ Says false word := by
    simp [Says, or_assoc]
  by_cases hyes : Says true word
  · have hno : ¬ Says false word := fun hno => not_says_both hno hyes
    rw [if_pos (htrue.2 hyes)]
    cases b <;> simp [hyes, hno]
  · rw [if_neg fun h => hyes (htrue.1 h)]
    by_cases hno : Says false word
    · rw [if_pos (hfalse.2 hno)]
      cases b <;> simp [hyes, hno]
    · rw [if_neg fun h => hno (hfalse.1 h)]
      cases b <;> simp [hyes, hno]

end Text

namespace Datum

variable {r : Datum} {text : String}

/-- An integer or a variant is read from a numeral that passes the check of its type. -/
theorem readInteger_eq_ok_iff {t : ValueType} :
    readInteger text t = .ok r ↔ ∃ n, Numeral.read (Text.trimmed text) = .ok n ∧ ofChecked t n = .ok (some r) := by
  unfold readInteger
  cases Numeral.read (Text.trimmed text) with
  | error fault => simp
  | ok n =>
    dsimp only
    cases hchecked : ofChecked t n with
    | error fault => simp [hchecked, bind, Except.bind]
    | ok found =>
      cases found <;> simp [hchecked, bind, Except.bind, pure, Except.pure, throw, throwThe, MonadExceptOf.throw]

theorem read_integer_iff {k : IntKind} :
    read text (.integer k) = .ok r ↔
      ∃ b : Bounded k, Numeral.Denotes (Text.trimmed text) b.toInt ∧ r = integer k b := by
  have hread : read text (.integer k) = readInteger text (.integer k) := rfl
  simp only [hread, readInteger_eq_ok_iff, ofChecked_integer_iff, Numeral.read_eq_ok_iff]
  constructor
  · rintro ⟨n, ⟨hdenotes, -⟩, b, rfl, rfl⟩
    exact ⟨b, hdenotes, rfl⟩
  · rintro ⟨b, hdenotes, rfl⟩
    exact ⟨b.toInt, ⟨hdenotes, Numeral.holds_toInt b⟩, b, rfl, rfl⟩

theorem read_enumeration_iff {e : EnumDef} :
    read text (.enumeration e) = .ok r ↔ ∃ v, r = enumeration e v.discriminant ∧
      (e.FirstNamed (String.ofList (Text.trimmed text)) v ∨ e.NoneNamed (String.ofList (Text.trimmed text)) ∧
        v ∈ e.variants ∧ Numeral.Denotes (Text.trimmed text) v.discriminant.toInt) := by
  simp only [read]
  cases hname : e.discriminantOf? (String.ofList (Text.trimmed text)) with
  | some n =>
    obtain ⟨v, hv, rfl⟩ := EnumDef.discriminantOf?_eq_some_iff.1 hname
    have hnamed : ¬ e.NoneNamed (String.ofList (Text.trimmed text)) := by
      intro hnone
      rw [EnumDef.discriminantOf?_eq_none_iff.2 hnone] at hname
      cases hname
    constructor
    · intro h
      exact ⟨v, (Except.ok.inj h).symm, .inl hv⟩
    · rintro ⟨u, rfl, hu | hu⟩
      · rw [Option.some.inj (hname.symm.trans (EnumDef.discriminantOf?_eq_some_iff.2 ⟨u, hu, rfl⟩))]
      · exact absurd hu.1 hnamed
  | none =>
    have hnone := EnumDef.discriminantOf?_eq_none_iff.1 hname
    simp only [readInteger_eq_ok_iff, ofChecked_enumeration_iff, Numeral.read_eq_ok_iff]
    constructor
    · rintro ⟨n, ⟨hdenotes, -⟩, v, hv, rfl, rfl⟩
      exact ⟨v, rfl, .inr ⟨hnone, hv, hdenotes⟩⟩
    · rintro ⟨v, rfl, hv | ⟨-, hv, hdenotes⟩⟩
      · rw [EnumDef.discriminantOf?_eq_some_iff.2 ⟨v, hv, rfl⟩] at hname
        cases hname
      · exact ⟨_, ⟨hdenotes, Numeral.holds_toInt _⟩, v, hv, rfl, rfl⟩

theorem read_boolean_iff :
    read text .boolean = .ok r ↔ ∃ b, Text.Says b (String.ofList (Text.trimmed text)) ∧ r = boolean b := by
  simp only [read, ← Text.readBoolean_eq_some_iff]
  cases readBoolean (Text.trimmed text) <;> simp [eq_comm]

end Datum

namespace Value

theorem convert_text_eq_ok_iff {s : String} {t : ValueType} (h : t ≠ .varchar) {w : Value} :
    (varchar s).convert t = .ok w ↔ ∃ r, Datum.read s t = .ok r ∧ w = datum r := by
  rw [convert_ofText h, Result.map_eq_ok_iff]
  simp only [Datum.orFail_eq_ok_iff, @eq_comm _ w]

/-- **What texts are read as.**  Without the blanks around it
- a text is an integer exactly if it is a numeral of an integer of the type;
- it is a variant exactly if it is a name, which stands for the first variant of that name, or no name but a numeral of
  a discriminant;
- it is a truth value exactly if it is one of its words. -/
theorem convert_text_iff (s : String) :
    (∀ (k : IntKind) w, (varchar s).convert (.integer k) = .ok w ↔ ∃ body n, Text.Encloses s body ∧
      Numeral.Denotes body n ∧ ∃ h : k.Spans n, w = integer ⟨n, IntKind.spans_iff_holds.1 h⟩) ∧
    (∀ (e : EnumDef) w, (varchar s).convert (.enumeration e) = .ok w ↔ ∃ body v, Text.Encloses s body ∧
      w = datum (.enumeration e v.discriminant) ∧ (e.FirstNamed (String.ofList body) v ∨
        e.NoneNamed (String.ofList body) ∧ v ∈ e.variants ∧ Numeral.Denotes body v.discriminant.toInt)) ∧
    ∀ w, (varchar s).convert .boolean = .ok w ↔ ∃ body b, Text.Encloses s body ∧ Text.Says b (String.ofList body) ∧
      w = boolean b := by
  refine ⟨fun k w => ?_, fun e w => ?_, fun w => ?_⟩
  · rw [convert_text_eq_ok_iff (t := .integer k) (by simp)]
    simp only [Datum.read_integer_iff, Text.encloses_iff]
    constructor
    · rintro ⟨_, ⟨b, hdenotes, rfl⟩, rfl⟩
      exact ⟨_, b.toInt, rfl, hdenotes, IntKind.spans_iff_holds.2 b.holds, rfl⟩
    · rintro ⟨_, n, rfl, hdenotes, h, rfl⟩
      exact ⟨_, ⟨_, hdenotes, rfl⟩, rfl⟩
  · rw [convert_text_eq_ok_iff (t := .enumeration e) (by simp)]
    simp only [Datum.read_enumeration_iff, Text.encloses_iff]
    constructor
    · rintro ⟨_, ⟨v, rfl, hv⟩, rfl⟩
      exact ⟨_, v, rfl, rfl, hv⟩
    · rintro ⟨_, v, rfl, rfl, hv⟩
      exact ⟨_, ⟨v, rfl, hv⟩, rfl⟩
  · rw [convert_text_eq_ok_iff (t := .boolean) (by simp)]
    simp only [Datum.read_boolean_iff, Text.encloses_iff]
    constructor
    · rintro ⟨_, ⟨b, hb, rfl⟩, rfl⟩
      exact ⟨_, b, rfl, hb, rfl⟩
    · rintro ⟨_, b, rfl, hb, rfl⟩
      exact ⟨_, ⟨b, hb, rfl⟩, rfl⟩

end Value

end RowBinding
