import RowBinding.Proofs.SameShape
import RowBinding.Proofs.Variants
/-!
# What keys write to a hasher

Keys are looked up by their hash first and by `same` then, so keys that are the same must write the same pieces.  **They
do, and keys that are not the same write other pieces** (`Fingerprint.same_iff_hashed`), as long as the identities of
their types are told apart.  Each part of a key tells where it ends: a text by a byte that no text contains, a list by its
length.  So no part can borrow from the next one.
-/
namespace RowBinding

/-! ## Texts in bytes -/

namespace Text

/-- **No text contains the byte that ends it.** -/
theorem ne_endOfText_of_mem {c : Char} {b : UInt8} (h : b ∈ String.utf8EncodeChar c) : b ≠ Fingerprint.endOfText := by
  have hall : ∀ b ∈ String.utf8EncodeChar c, b.toNat < 255 := by
    unfold String.utf8EncodeChar
    dsimp only
    -- One, two, three or four bytes, the first of which is the largest.
    split_ifs
    all_goals
      simp only [List.forall_mem_cons, List.not_mem_nil, false_imp_iff, implies_true, and_true, UInt8.toNat_ofNat']
      omega
  rintro rfl
  exact absurd (hall _ h) (by decide)

theorem flatMap_utf8EncodeChar_inj {cs ds : List Char} :
    cs.flatMap String.utf8EncodeChar = ds.flatMap String.utf8EncodeChar ↔ cs = ds := by
  refine ⟨fun h => ?_, congrArg _⟩
  have hbytes : (String.ofList cs).toByteArray = (String.ofList ds).toByteArray := by
    rw [String.toByteArray_ofList, String.toByteArray_ofList, List.utf8Encode, List.utf8Encode, h]
  simpa using congrArg String.toList (String.toByteArray_inj.1 hbytes)

theorem utf8_inj {a b : String} : utf8 a = utf8 b ↔ a = b := flatMap_utf8EncodeChar_inj.trans String.toList_inj

end Text

namespace Fingerprint

/-! ## Writing that tells where it ends -/

section

variable {α : Type} {write write' : α → List HashWrite} {same same' : α → α → Prop}

/-- What is written for a value tells the value, as far as `same` tells values apart, and where it ends: it does so
whatever is written behind it. -/
def Tells (write : α → List HashWrite) (same : α → α → Prop) : Prop :=
  ∀ a b s t, write a ++ s = write b ++ t ↔ same a b ∧ s = t

theorem tells_piece (piece : α → HashWrite) : Tells (fun a => [piece a]) fun a b => piece a = piece b := by
  intro a b s t
  rw [List.singleton_append, List.singleton_append, List.cons.injEq]

theorem Tells.append (h : Tells write same) (h' : Tells write' same') :
    Tells (fun a => write a ++ write' a) fun a b => same a b ∧ same' a b := by
  intro a b s t
  rw [List.append_assoc, List.append_assoc, h, h', and_assoc]

theorem Tells.comp {β : Type} (h : Tells write same) (f : β → α) :
    Tells (fun b => write (f b)) fun b c => same (f b) (f c) := fun _ _ => h _ _

theorem Tells.flatMap (h : Tells write same) {as bs : List α} (hlength : as.length = bs.length) (s t : List HashWrite) :
    as.flatMap write ++ s = bs.flatMap write ++ t ↔ List.Forall₂ same as bs ∧ s = t := by
  induction as generalizing bs with
  | nil =>
    obtain rfl := List.length_eq_zero_iff.1 hlength.symm
    simp
  | cons a as ih =>
    cases bs with
    | nil => cases hlength
    | cons b bs =>
      rw [List.flatMap_cons, List.flatMap_cons, List.append_assoc, List.append_assoc, h,
        ih (Nat.succ.inj hlength), List.forall₂_cons, and_assoc]

/-- **A list that tells its length first tells its elements, however many there are.** -/
theorem Tells.sized (h : Tells write same) :
    Tells (fun as => .size as.length :: as.flatMap write) (List.Forall₂ same) := by
  intro as bs s t
  rw [List.cons_append, List.cons_append, List.cons.injEq, HashWrite.size.injEq]
  constructor
  · rintro ⟨hlength, hwrites⟩
    exact (h.flatMap hlength s t).1 hwrites
  · rintro ⟨hall, hrest⟩
    exact ⟨hall.length_eq, (h.flatMap hall.length_eq s t).2 ⟨hall, hrest⟩⟩

end

/-! ## Texts and types -/

theorem terminated_inj {us vs : List UInt8} (hu : endOfText ∉ us) (hv : endOfText ∉ vs) {s t : List HashWrite} :
    us.map HashWrite.byte ++ .byte endOfText :: s = vs.map HashWrite.byte ++ .byte endOfText :: t ↔ us = vs ∧ s = t := by
  induction us generalizing vs with
  | nil =>
    cases vs with
    | nil => simp
    | cons v vs =>
      have hne : endOfText ≠ v := fun heq => hv (heq ▸ List.mem_cons_self)
      simp [hne]
  | cons u us ih =>
    cases vs with
    | nil =>
      have hne : u ≠ endOfText := fun heq => hu (heq ▸ List.mem_cons_self)
      simp [hne]
    | cons v vs =>
      have htail := ih (fun hmem => hu (List.mem_cons_of_mem u hmem)) fun hmem => hv (List.mem_cons_of_mem v hmem)
      simp only [List.map_cons, List.cons_append, List.cons.injEq, HashWrite.byte.injEq, htail, and_assoc]

/-- **A label tells its name and where it ends**, so labels cannot be cut in another way. -/
theorem tells_label : Tells writeLabel fun a b => Text.folded a = Text.folded b := by
  intro a b s t
  have hfree : ∀ cs : List Char, endOfText ∉ cs.flatMap String.utf8EncodeChar := by
    intro cs hmem
    obtain ⟨c, -, hc⟩ := List.mem_flatMap.1 hmem
    exact Text.ne_endOfText_of_mem hc rfl
  rw [writeLabel, writeLabel, List.append_assoc, List.append_assoc, List.singleton_append, List.singleton_append,
    terminated_inj (hfree _) (hfree _), Text.flatMap_utf8EncodeChar_inj]

theorem tells_text : Tells writeText Eq := by
  intro a b s t
  simp [writeText, Text.utf8_inj]

theorem tells_enum : Tells writeEnum Eq := by
  have hvariant : Tells (fun v : Variant => writeText v.name ++ [.number v.discriminant.toInt]) Eq := by
    intro v w s t
    rw [(tells_text.comp Variant.name).append (tells_piece fun v : Variant => .number v.discriminant.toInt)]
    refine and_congr_left fun _ => ⟨fun ⟨hname, hnumber⟩ => ?_, fun h => h ▸ ⟨rfl, rfl⟩⟩
    have hdiscriminant := Bounded.eq_of_toInt (HashWrite.number.inj hnumber)
    cases v
    cases w
    cases hname
    cases hdiscriminant
    rfl
  have hparts := (tells_text.comp EnumDef.name).append (hvariant.sized.comp EnumDef.variants)
  intro e f s t
  refine (hparts e f s t).trans (and_congr_left fun _ => ?_)
  rw [List.forall₂_eq_eq_eq]
  cases e
  cases f
  simp

/-- A type is an enumeration or has a place among the plain types, which is what it writes. -/
theorem enumeration_or_plain (t : ValueType) : (∃ e, t = .enumeration e) ∨
    writeType t = [.alternative (typeIndex t)] ∧ ValueType.plain[typeIndex t]? = some t := by
  cases t with
  | integer k => cases k <;> exact .inr ⟨rfl, by decide⟩
  | float w => cases w <;> exact .inr ⟨rfl, by decide⟩
  | enumeration e => exact .inl ⟨e, rfl⟩
  | _ => exact .inr ⟨rfl, by decide⟩

/-- **A type tells itself**, an enumeration with its name and all its variants. -/
theorem tells_type : Tells writeType Eq := by
  have hapart : ∀ {a : ValueType}, ValueType.plain[typeIndex a]? = some a → typeIndex a ≠ ValueType.plain.length := by
    intro a ha hindex
    rw [hindex, List.getElem?_eq_none (Nat.le_refl _)] at ha
    cases ha
  intro a b s t
  refine ⟨fun h => ?_, fun ⟨hab, hst⟩ => hab ▸ hst ▸ rfl⟩
  obtain ⟨e, rfl⟩ | ⟨ha, hplain⟩ := enumeration_or_plain a <;> obtain ⟨f, rfl⟩ | ⟨hb, hplain'⟩ := enumeration_or_plain b
  · obtain ⟨rfl, hrest⟩ := (tells_enum e f s t).1 (List.cons.inj h).2
    exact ⟨rfl, hrest⟩
  · rw [writeType, hb] at h
    exact absurd (HashWrite.alternative.inj (List.cons.inj h).1).symm (hapart hplain')
  · rw [writeType, ha] at h
    exact absurd (HashWrite.alternative.inj (List.cons.inj h).1) (hapart hplain)
  · rw [ha, hb] at h
    obtain ⟨hindex, hrest⟩ := List.cons.inj h
    rw [HashWrite.alternative.inj hindex, hplain'] at hplain
    exact ⟨(Option.some.inj hplain).symm, hrest⟩

/-- **A field tells its column.** -/
theorem tells_field : Tells writeField fun f g => f.key = g.key ∧ f.type = g.type :=
  (tells_label.comp Field.label).append (tells_type.comp Field.type)

/-! ## Keys -/

theorem tells_source (typeWrite : TypeName → HashWrite) :
    Tells (writeOption fun name => [typeWrite name]) fun a b => a.map typeWrite = b.map typeWrite := by
  intro a b s t
  cases a <;> cases b <;> simp [writeOption]

theorem tells_direction : Tells writeDirection Eq := by
  intro a b s t
  cases a <;> cases b <;> simp [writeDirection]

/-- A piece as a hasher gets it that is given something else for the identity of a type. -/
def HashWrite.under (typeWrite : TypeName → HashWrite) : HashWrite → HashWrite
  | .typeName name => typeWrite name
  | w => w

/-- The pieces of a key as such a hasher gets them. -/
def writesUnder (typeWrite : TypeName → HashWrite) (p : Fingerprint) : List HashWrite :=
  p.hashWrites.map (HashWrite.under typeWrite)

/-- The types of a key. -/
def typeNames (p : Fingerprint) : List TypeName := p.target :: p.source.toList

/-- What a hasher is given for the types of two keys tells these types apart. -/
def TypesApart (typeWrite : TypeName → HashWrite) (p q : Fingerprint) : Prop :=
  ∀ s ∈ p.typeNames, ∀ t ∈ q.typeNames, typeWrite s = typeWrite t → s = t

instance (typeWrite : TypeName → HashWrite) (p q : Fingerprint) : Decidable (TypesApart typeWrite p q) :=
  inferInstanceAs (Decidable (∀ s ∈ p.typeNames, ∀ t ∈ q.typeNames, typeWrite s = typeWrite t → s = t))

variable (typeWrite : TypeName → HashWrite) {p q : Fingerprint}

theorem map_under_writeField (f : Field) : (writeField f).map (HashWrite.under typeWrite) = writeField f := by
  have htext : ∀ s, (writeText s).map (HashWrite.under typeWrite) = writeText s := fun _ => rfl
  have hlabel : (writeLabel f.label).map (HashWrite.under typeWrite) = writeLabel f.label := by
    rw [writeLabel, List.map_append, List.map_map]
    rfl
  have htype : (writeType f.type).map (HashWrite.under typeWrite) = writeType f.type := by
    obtain ⟨e, he⟩ | ⟨ht, -⟩ := enumeration_or_plain f.type
    · simp [he, writeType, writeEnum, htext, HashWrite.under, List.map_flatMap]
    · rw [ht]
      rfl
  rw [writeField, List.map_append, hlabel, htype]

/-- The pieces of a key, part by part. -/
theorem writesUnder_eq (p : Fingerprint) : p.writesUnder typeWrite =
    [typeWrite p.target] ++ (writeOption (fun name => [typeWrite name]) p.source ++
      (writeDirection p.direction ++ (.size p.fields.length :: p.fields.flatMap writeField))) := by
  have hsource : (writeOption (fun name => [HashWrite.typeName name]) p.source).map (HashWrite.under typeWrite) =
      writeOption (fun name => [typeWrite name]) p.source := by
    cases p.source <;> rfl
  have hdirection : (writeDirection p.direction).map (HashWrite.under typeWrite) = writeDirection p.direction := by
    cases p.direction <;> rfl
  have hfields : (p.fields.flatMap writeField).map (HashWrite.under typeWrite) = p.fields.flatMap writeField := by
    rw [List.map_flatMap]
    exact congrArg (p.fields.flatMap ·) (funext (map_under_writeField typeWrite))
  rw [writesUnder, hashWrites, List.map_append, List.map_append, List.map_cons, List.map_cons, hsource, hdirection,
    hfields]
  simp only [HashWrite.under, List.cons_append, List.nil_append, List.append_assoc]

/-- **A key tells what its types are to the hasher, its direction and its columns.** -/
theorem tells_key : Tells (writesUnder typeWrite) fun p q =>
    typeWrite p.target = typeWrite q.target ∧ p.source.map typeWrite = q.source.map typeWrite ∧
      p.direction = q.direction ∧ Field.SameColumns p.fields q.fields := by
  have hparts := ((tells_piece typeWrite).comp target).append (((tells_source typeWrite).comp source).append
    ((tells_direction.comp direction).append (tells_field.sized.comp fields)))
  intro p q s t
  rw [writesUnder_eq, writesUnder_eq]
  exact hparts p q s t

theorem writesUnder_eq_iff : p.writesUnder typeWrite = q.writesUnder typeWrite ↔
    typeWrite p.target = typeWrite q.target ∧ p.source.map typeWrite = q.source.map typeWrite ∧
      p.direction = q.direction ∧ Field.SameColumns p.fields q.fields := by
  have hkeys := tells_key typeWrite p q [] []
  rwa [List.append_nil, List.append_nil, and_iff_left rfl] at hkeys

theorem writesUnder_of_same (h : p.same q = true) : p.writesUnder typeWrite = q.writesUnder typeWrite := by
  obtain ⟨htarget, hsource, hdirection, hfields⟩ := same_iff.1 h
  exact (writesUnder_eq_iff typeWrite).2 ⟨congrArg _ htarget, congrArg _ hsource, hdirection, hfields⟩

variable {typeWrite} in
theorem TypesApart.same_iff_writesUnder (h : TypesApart typeWrite p q) :
    p.same q = true ↔ p.writesUnder typeWrite = q.writesUnder typeWrite := by
  refine ⟨writesUnder_of_same typeWrite, fun heq => ?_⟩
  obtain ⟨htarget, hsource, hdirection, hfields⟩ := (writesUnder_eq_iff typeWrite).1 heq
  refine same_iff.2 ⟨h _ List.mem_cons_self _ List.mem_cons_self htarget, ?_, hdirection, hfields⟩
  cases hp : p.source with
  | none =>
    rw [hp] at hsource
    exact (Option.map_eq_none_iff.1 hsource.symm).symm
  | some s =>
    rw [hp] at hsource
    obtain ⟨t, ht, hst⟩ := Option.map_eq_some_iff.1 hsource.symm
    have hmem : s ∈ p.typeNames ∧ t ∈ q.typeNames := by simp [typeNames, hp, ht]
    rw [ht, h s hmem.1 t hmem.2 hst.symm]

theorem writesUnder_typeName (p : Fingerprint) : p.writesUnder .typeName = p.hashWrites := by
  have hself : HashWrite.under .typeName = id := by
    funext w
    cases w <;> rfl
  rw [writesUnder, hself, List.map_id]

/-- **Keys are sound to be looked up by their hash.**  Sameness is an equivalence.  Two keys are the same exactly if they
write the same pieces, which is so exactly if their types and directions are equal and their columns have the same names
and equal types, one by one.  A hasher gets some piece of its own for the identity of a type.  Whatever that is, keys that
are the same give it the same pieces; and if it tells the types of the keys apart, keys that are not the same do not. -/
theorem same_iff_hashed :
    Equivalence (fun p q : Fingerprint => p.same q = true) ∧
    (∀ p q : Fingerprint, p.same q = true ↔ p.hashWrites = q.hashWrites) ∧
    (∀ p q : Fingerprint, p.hashWrites = q.hashWrites ↔
      p.target = q.target ∧ p.source = q.source ∧ p.direction = q.direction ∧
        List.Forall₂ (fun f g => Text.sameName f.label g.label = true ∧ f.type = g.type) p.fields q.fields) ∧
    ∀ (typeWrite : TypeName → HashWrite) (p q : Fingerprint),
      (p.same q = true → p.writesUnder typeWrite = q.writesUnder typeWrite) ∧
      (TypesApart typeWrite p q → p.same q = false → p.writesUnder typeWrite ≠ q.writesUnder typeWrite) := by
  have hsame : ∀ p q : Fingerprint, p.same q = true ↔ p.hashWrites = q.hashWrites := by
    intro p q
    have hapart : TypesApart .typeName p q := fun _ _ _ _ => HashWrite.typeName.inj
    rw [hapart.same_iff_writesUnder, writesUnder_typeName, writesUnder_typeName]
  refine ⟨⟨same_refl, same_symm, same_trans⟩, hsame, fun p q => ?_, fun typeWrite p q => ?_⟩
  · rw [← hsame, same_iff]
    refine and_congr_right fun _ => and_congr_right fun _ => and_congr_right fun _ => ?_
    simp only [Field.SameColumns, Field.key, Text.sameName_iff]
  · refine ⟨writesUnder_of_same typeWrite, fun hapart hsame heq => ?_⟩
    rw [hapart.same_iff_writesUnder.2 heq] at hsame
    cases hsame

/-- Two columns whose labels are cut in different places. -/
def cutLabels (first second : String) : Fingerprint :=
  objectToParameters "Order" "Customer" [.column first .varchar, .column second .varchar]

/-- A hasher that gets the length of its name for a type. -/
def lengthWrite (name : TypeName) : HashWrite := .number name.length

theorem hashed_cutLabels : TypesApart lengthWrite (cutLabels "ab" "c") (cutLabels "a" "bc") ∧
    (cutLabels "ab" "c").writesUnder lengthWrite ≠ (cutLabels "a" "bc").writesUnder lengthWrite ∧
    (cutLabels "ab" "c").writesUnder lengthWrite = (cutLabels "aB" "C").writesUnder lengthWrite := by
  have hapart : TypesApart lengthWrite (cutLabels "ab" "c") (cutLabels "a" "bc") := by decide
  obtain ⟨-, -, -, hhashed⟩ := same_iff_hashed
  exact ⟨hapart, (hhashed lengthWrite _ _).2 hapart (by decide), (hhashed lengthWrite _ _).1 (by decide)⟩

end Fingerprint

end RowBinding
