import RowBinding.Value.Conversion
import RowBinding.Proofs.WrittenNumbers
/-!
# Bytes that are written and read

Bytes are written as pairs of hexadecimal digits.  An identifier is read as such digits again, and comes back
(`Uuid.read_text`).  **Bytes as such are not: a text becomes the bytes of its characters**, so that of bytes that have
been text the digits come back, two for each (`Value.convert_bytes`).
-/
namespace RowBinding

namespace Text

/-! ## Hexadecimal digits -/

theorem hexDigit?_hexDigit : ∀ {n : Nat}, n < 16 → hexDigit? (hexDigit n) = some n := by
  decide

theorem isBlank_hexDigit : ∀ {n : Nat}, n < 16 → isBlank (hexDigit n) = false := by
  decide

theorem utf8Size_hexDigit : ∀ {n : Nat}, n < 16 → (hexDigit n).utf8Size = 1 := by
  decide

/-- The character code of a hexadecimal digit. -/
def hexCode (n : Nat) : UInt8 := if n < 10 then .ofNat (48 + n) else .ofNat (87 + n)

theorem utf8EncodeChar_hexDigit : ∀ {n : Nat}, n < 16 → String.utf8EncodeChar (hexDigit n) = [hexCode n] := by
  decide

theorem exists_of_mem_hexBytes {bytes : List UInt8} {c : Char} (h : c ∈ bytes.flatMap hexByte) :
    ∃ n < 16, c = hexDigit n := by
  obtain ⟨b, -, hc⟩ := List.mem_flatMap.1 h
  have hb := b.toNat_lt
  simp only [hexByte, List.mem_cons, List.not_mem_nil, or_false] at hc
  rcases hc with rfl | rfl
  · exact ⟨_, by omega, rfl⟩
  · exact ⟨_, by omega, rfl⟩

/-- **The digits of bytes read back as the bytes.** -/
theorem hexBytes?_flatMap (bytes : List UInt8) : hexBytes? (bytes.flatMap hexByte) = some bytes := by
  induction bytes with
  | nil => rfl
  | cons b bytes ih =>
    have hb := b.toNat_lt
    have hhigh : hexDigit? (hexDigit (b.toNat / 16)) = some (b.toNat / 16) := hexDigit?_hexDigit (by omega)
    have hlow : hexDigit? (hexDigit (b.toNat % 16)) = some (b.toNat % 16) := hexDigit?_hexDigit (by omega)
    have hbyte : UInt8.ofNat (b.toNat / 16 * 16 + b.toNat % 16) = b := by
      rw [Nat.div_add_mod', UInt8.ofNat_toNat]
    rw [List.flatMap_cons, hexByte, List.cons_append, List.cons_append, List.nil_append, hexBytes?, hhigh, hlow, ih]
    simp only [Option.bind_eq_bind, Option.bind_some, hbyte]
    rfl

theorem length_hexBytes (bytes : List UInt8) : (bytes.flatMap hexByte).length = 2 * bytes.length := by
  induction bytes with
  | nil => rfl
  | cons b bytes ih =>
    rw [List.flatMap_cons, List.length_append, ih, List.length_cons]
    simp only [hexByte, List.length_cons, List.length_nil]
    omega

theorem byteLength_eq_length {cs : List Char} (h : ∀ c ∈ cs, c.utf8Size = 1) : byteLength cs = cs.length := by
  induction cs with
  | nil => rfl
  | cons c cs ih =>
    have hcs := ih fun b hb => h b (List.mem_cons_of_mem c hb)
    unfold byteLength at hcs ⊢
    rw [List.map_cons, List.sum_cons, hcs, h c List.mem_cons_self, List.length_cons, Nat.add_comm]

/-- As a text, the digits have two bytes for every byte. -/
theorem utf8_hex (bytes : List UInt8) :
    utf8 (hex bytes) = bytes.flatMap fun b => [hexCode (b.toNat / 16), hexCode (b.toNat % 16)] := by
  unfold utf8 hex
  rw [String.toList_ofList, List.flatMap_assoc]
  congr 1
  funext b
  have hb := b.toNat_lt
  rw [hexByte, List.flatMap_cons, List.flatMap_cons, utf8EncodeChar_hexDigit (by omega), utf8EncodeChar_hexDigit (by omega)]
  rfl

end Text

namespace Uuid

/-! ## Identifiers -/

theorem ofGroups?_grouped {a b c d e : List Char} (ha : a.length = 8) (hb : b.length = 4) (hc : c.length = 4)
    (hd : d.length = 4) (he : e.length = 12) :
    ofGroups? (a ++ '-' :: b ++ '-' :: c ++ '-' :: d ++ '-' :: e) = ofDigits? (a ++ b ++ c ++ d ++ e) := by
  unfold ofGroups?
  rw [if_pos]
  · simp (disch := omega) [List.drop_append, List.drop_of_length_le, ha, hb, hc, hd]
  · simp [ha, hb, hc, hd, he, groupedLength]

variable (u : Uuid)

/-- The digits of an identifier from one place on. -/
def group (start size : Nat) : List Char := ((u.bytes.flatMap Text.hexByte).drop start).take size

theorem length_digits : (u.bytes.flatMap Text.hexByte).length = 32 := by rw [Text.length_hexBytes, u.length_eq]

theorem length_group {start size : Nat} (h : start + size ≤ 32) : (u.group start size).length = size := by
  have := u.length_digits
  rw [group, List.length_take, List.length_drop]
  omega

theorem group_append (start m n : Nat) : u.group start m ++ u.group (start + m) n = u.group start (m + n) := by
  rw [group, group, group, List.take_add, List.drop_drop]

theorem toList_text : u.text.toList =
    u.group 0 8 ++ '-' :: u.group 8 4 ++ '-' :: u.group 12 4 ++ '-' :: u.group 16 4 ++ '-' :: u.group 20 12 :=
  String.toList_ofList

theorem groups_append : u.group 0 8 ++ u.group 8 4 ++ u.group 12 4 ++ u.group 16 4 ++ u.group 20 12 =
    u.bytes.flatMap Text.hexByte := by
  have := u.length_digits
  rw [u.group_append 0 8 4, u.group_append 0 12 4, u.group_append 0 16 4, u.group_append 0 20 12, group, List.drop_zero,
    List.take_of_length_le (by omega)]

theorem exists_of_mem_text {c : Char} (h : c ∈ u.text.toList) : c = '-' ∨ ∃ n < 16, c = Text.hexDigit n := by
  have hgroup : ∀ {start size : Nat}, c ∈ u.group start size → ∃ n < 16, c = Text.hexDigit n := fun hc =>
    Text.exists_of_mem_hexBytes (List.mem_of_mem_drop (List.mem_of_mem_take hc))
  rw [toList_text] at h
  simp only [List.mem_append, List.mem_cons] at h
  rcases h with (((h | h | h) | h | h) | h | h) | h | h
  all_goals first | exact .inl h | exact .inr (hgroup h)

/-- **An identifier reads back as itself.** -/
theorem read_text : read u.text.toList = .ok u := by
  have hlength : u.text.toList.length = 36 := by
    rw [toList_text]
    simp [length_group]
  have hsize : Text.byteLength u.text.toList = 36 := by
    rw [Text.byteLength_eq_length, hlength]
    intro c hc
    rcases u.exists_of_mem_text hc with rfl | ⟨n, hn, rfl⟩
    · rfl
    · exact Text.utf8Size_hexDigit hn
  have hdigits : ofDigits? (u.bytes.flatMap Text.hexByte) = some u := by
    rw [ofDigits?, if_pos u.length_digits, Text.hexBytes?_flatMap]
    exact dif_pos u.length_eq
  have hgroups : ofGroups? u.text.toList = some u := by
    rw [toList_text, ofGroups?_grouped (u.length_group (by decide)) (u.length_group (by decide))
      (u.length_group (by decide)) (u.length_group (by decide)) (u.length_group (by decide)), groups_append, hdigits]
  have hframed : framed? u.text.toList = none := by
    rw [framed?, if_neg (by omega), if_neg (by omega)]
  have hplain : ofDigits? u.text.toList = none := by
    rw [ofDigits?, if_neg (by omega)]
  rw [read, read?, hframed, hplain, hgroups]
  rfl

end Uuid

namespace Value

/-- **Bytes that have been text come back as their digits.**  The text has two digits for each byte, from which the byte
could be read; what is read instead are the codes of the digits.  So nothing but no bytes at all comes back as it was. -/
theorem convert_bytes (bytes : List UInt8) :
    (datum (.blob bytes)).convert .varchar = .ok (varchar (Text.hex bytes)) ∧
    Text.hexBytes? (Text.hex bytes).toList = some bytes ∧
    ∃ back, (varchar (Text.hex bytes)).convert .blob = .ok (datum (.blob back)) ∧
      back = (bytes.flatMap fun b => [Text.hexCode (b.toNat / 16), Text.hexCode (b.toNat % 16)]) ∧
      back.length = 2 * bytes.length ∧ (back = bytes ↔ bytes = []) := by
  have hlength : (Text.utf8 (Text.hex bytes)).length = 2 * bytes.length := by
    rw [Text.utf8_hex, List.length_flatMap]
    simp only [List.length_cons, List.length_nil, List.map_const', List.sum_replicate_nat]
    exact Nat.mul_comm ..
  refine ⟨rfl, ?_, Text.utf8 (Text.hex bytes), rfl, Text.utf8_hex bytes, hlength, ?_⟩
  · rw [Text.hex, String.toList_ofList, Text.hexBytes?_flatMap]
  · constructor
    · intro h
      rw [h] at hlength
      exact List.length_eq_zero_iff.1 (by omega)
    · rintro rfl
      rfl

/-- The last byte is written as `ff`, and what comes back are the codes of two letters. -/
theorem convert_lastByte : (datum (.blob [255])).convert .varchar = .ok (varchar "ff") ∧
    (varchar "ff").convert .blob = .ok (datum (.blob [102, 102])) :=
  ⟨rfl, rfl⟩

end Value

end RowBinding
