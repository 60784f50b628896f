import RowBinding.Proofs.StoreFieldTypes
import RowBinding.Proofs.WrittenBytes
import RowBinding.Proofs.WrittenDates
/-!
# Values in text columns

Every value can become text.  **Truth values, integers, decimals, dates and identifiers come back from it**
(`Value.convert_text`): what is read is equal to what was written, and a decimal has its scale.
-/
namespace RowBinding

namespace ValueType

/-- The types whose text says all that there is to their values. -/
def isExactAsText : ValueType → Bool
  | boolean | integer _ | decimal | date | uuid => true
  | _ => false

end ValueType

namespace Numeral

theorem solid_chars (n : Int) : Text.Solid (chars n) := by
  cases n with
  | ofNat n => exact (Text.digits_toDigits n).solid
  | negSucc n => exact Text.solid_cons rfl (Text.digits_toDigits (n + 1)).solid

theorem holds_toInt {k : IntKind} (n : Bounded k) : -(largestNegative : Int) ≤ n.toInt ∧ n.toInt ≤ largest := by
  have hkind : -(largestNegative : Int) ≤ k.min ∧ k.max ≤ largest := by cases k <;> decide
  exact ⟨Int.le_trans hkind.1 n.holds.1, Int.le_trans n.holds.2 hkind.2⟩

end Numeral

theorem Decimal.solid_chars (x : Decimal) : Text.Solid x.chars := by
  rw [chars_eq]
  refine Text.solid_append ?_ (Text.solid_append x.digits_whole.solid ?_)
  · split
    · exact Text.solid_cons rfl (List.forall_mem_nil _)
    · exact List.forall_mem_nil _
  · split
    · exact List.forall_mem_nil _
    · exact Text.solid_cons rfl x.digits_fraction.solid

theorem Uuid.solid_text (u : Uuid) : Text.Solid u.text.toList := by
  intro c hc
  rcases u.exists_of_mem_text hc with rfl | ⟨n, hn, rfl⟩
  · rfl
  · exact Text.isBlank_hexDigit hn

namespace Datum

/-- A datum without the sign of a decimal that is zero. -/
def unsignedZero : Datum → Datum
  | decimal x => decimal x.unsignedZero
  | d => d

theorem unsignedZero_eq_self {d : Datum} (h : ∀ x, d = decimal x → x.negative = true → x.mantissa ≠ 0) :
    d.unsignedZero = d := by
  cases d with
  | decimal x =>
    have hsign : (x.negative && x.mantissa != 0) = x.negative := by
      cases hnegative : x.negative with
      | false => rfl
      | true => exact bne_iff_ne.2 (h x rfl hnegative)
    rw [unsignedZero, Decimal.unsignedZero, hsign]
  | _ => rfl

theorem read_numeral {k : IntKind} (n : Bounded k) :
    readInteger (Numeral.text n.toInt) (.integer k) = .ok (integer k n) := by
  have htrimmed : Text.trimmed (Numeral.text n.toInt) = Numeral.chars n.toInt := by
    rw [Text.trimmed, Numeral.text, String.toList_ofList, (Numeral.solid_chars _).trim_eq]
  have hchecked : ofChecked (.integer k) n.toInt = .ok (some (integer k n)) := by
    rw [ofChecked, Bounded.ofInt?_toInt]
  rw [readInteger, htrimmed, Numeral.read_chars (Numeral.holds_toInt n)]
  simp only [hchecked]
  rfl

/-- **The text of a datum is read as the datum.** -/
theorem read_text {d : Datum} (h : d.type.isExactAsText = true) : read d.text d.type = .ok d.unsignedZero := by
  cases d with
  | boolean b => cases b <;> rfl
  | integer k n => exact read_numeral n
  | decimal x =>
    have htrimmed : Text.trimmed x.text = x.chars := by
      rw [Text.trimmed, Decimal.text, String.toList_ofList, x.solid_chars.trim_eq]
    simp only [read, text, type, htrimmed, Decimal.read_chars]
    rfl
  | date x =>
    simp only [read, text, type, Text.trimmed, x.solid_text.trim_eq, x.read_text]
    rfl
  | uuid u =>
    simp only [read, text, type, Text.trimmed, u.solid_text.trim_eq, u.read_text]
    rfl
  | _ => cases h

theorem agrees_unsignedZero {d : Datum} (h : d.type.isExactAsText = true) : d.unsignedZero.agrees d = true := by
  cases d with
  | decimal x => exact x.numEq_unsignedZero
  | boolean | integer | date | uuid => exact beq_self_eq_true _
  | _ => cases h

end Datum

namespace Value

theorem convert_varchar (d : Datum) : (datum d).convert .varchar = .ok (varchar d.text) := by
  cases d <;> rfl

theorem convert_ofText {s : String} {t : ValueType} (h : t ≠ .varchar) :
    (varchar s).convert t = (Datum.orFail (Datum.read s t)).map datum := by
  have hconvert : (Datum.varchar s).convert t = Datum.orFail (Datum.read s t) := if_neg (Ne.symm h)
  rw [varchar, convert, hconvert]

end Value

theorem Coercion.between_automatic {s t : ValueType} (h : s ≠ t) (henum : t.isEnum = false) :
    between .automatic s t = .convert t := by
  cases t with
  | enumeration e => cases henum
  | _ => exact if_neg h

/-- In automatic mode a value is sent to a text column as its text, and read from there. -/
theorem Rules.automatic_varchar {α : Type} {rules : Rules α} (hmode : rules.settings.mode = .automatic)
    {members : List OutboundMember} {target : TypeName} {member : String} {memberType t : ValueType}
    (hout : rules.outboundType members memberType = t) (hin : (rules.resolveInbound target member memberType .varchar).type = t)
    (ht : t ≠ .varchar) (henum : t.isEnum = false) :
    (rules.resolveOutbound members memberType (some .varchar)).coercion = .convert .varchar ∧
      (rules.resolveInbound target member memberType .varchar).coercion = .convert t := by
  constructor
  · rw [(resolveOutbound_automatic hmode members memberType .varchar).2, hout]
    exact if_neg (Ne.symm ht)
  · have hcoercion : (rules.resolveInbound target member memberType .varchar).coercion =
        .between rules.settings.mode .varchar (rules.resolveInbound target member memberType .varchar).type := rfl
    rw [hcoercion, hin, hmode, Coercion.between_automatic (Ne.symm ht) henum]

namespace Value

/-- **Truth values, integers, decimals, dates and identifiers come back from their text.**
- What comes back is equal to what was written.  A decimal keeps its scale.
- It is the same datum, except that a decimal that is zero loses its sign.
- So in automatic mode a member of such a type is sent to a text column as its text, and is read from there as it was. -/
theorem convert_text (d : Datum) (hd : d.type.isExactAsText = true) :
    ∃ s r, (datum d).convert .varchar = .ok (varchar s) ∧ (varchar s).convert d.type = .ok (datum r) ∧
      r.agrees d = true ∧ ((∀ x, d = .decimal x → x.negative = true → x.mantissa ≠ 0) → r = d) ∧
      (∀ x, d = .decimal x → ∃ y, r = .decimal y ∧ y.mantissa = x.mantissa ∧ y.scale = x.scale) ∧
      ∀ (α : Type) (rules : Rules α) (members : List OutboundMember) (target : TypeName) (member : String)
        (memberType : ValueType), rules.settings.mode = .automatic → rules.outboundType members memberType = d.type →
        (rules.resolveInbound target member memberType .varchar).type = d.type →
        (rules.resolveOutbound members memberType (some .varchar)).coercion.apply (datum d) = .ok (varchar s) ∧
        (rules.resolveInbound target member memberType .varchar).coercion.apply (varchar s) = .ok (datum r) := by
  have hne : d.type ≠ .varchar := by
    intro h
    rw [h] at hd
    cases hd
  have henum : d.type.isEnum = false := by
    cases d with
    | enumeration e n => cases hd
    | _ => rfl
  have hback : (varchar d.text).convert d.type = .ok (datum d.unsignedZero) := by
    rw [convert_ofText hne, Datum.read_text hd]
    rfl
  refine ⟨d.text, d.unsignedZero, convert_varchar d, hback, Datum.agrees_unsignedZero hd, Datum.unsignedZero_eq_self, ?_, ?_⟩
  · rintro x rfl
    exact ⟨x.unsignedZero, rfl, rfl, rfl⟩
  · intro α rules members target member memberType hmode hout hin
    obtain ⟨hsent, hread⟩ := Rules.automatic_varchar hmode hout hin hne henum
    rw [hsent, hread]
    exact ⟨convert_varchar d, hback⟩

/-- Five thousandths that are given back, to four places. -/
def refund : Decimal := ⟨true, 50, 4, by decide, by decide⟩

/-- They are sent as `-0.0050` and come back as they were. -/
theorem convert_text_refund : ValueType.decimal.isExactAsText = true ∧
    (datum (.decimal refund)).convert .varchar = .ok (varchar "-0.0050") ∧
    (Rules.automaticRules.resolveInbound "Counter" "a" .decimal .varchar).coercion.apply (varchar "-0.0050") =
      .ok (datum (.decimal refund)) := by
  have htext : (datum (.decimal refund)).convert .varchar = .ok (varchar "-0.0050") := rfl
  obtain ⟨s, r, hs, -, -, hsame, -, hrules⟩ := convert_text (.decimal refund) rfl
  obtain ⟨-, hread⟩ := hrules Unit Rules.automaticRules Rules.counterMember "Counter" "a" .decimal rfl rfl rfl
  have hrefund : r = .decimal refund := by
    refine hsame fun x hx _ => ?_
    obtain rfl := Datum.decimal.inj hx
    decide
  obtain rfl := Datum.varchar.inj (datum.inj (Except.ok.inj (htext.symm.trans hs)))
  subst hrefund
  exact ⟨rfl, htext, hread⟩

end Value

end RowBinding
