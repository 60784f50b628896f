import RowBinding.Proofs.ReadTexts
/-!
# Representations of variants

A variant leaves its enumeration as a text, as a number, or as the variant of the same name in another enumeration.
**Where the names of an enumeration differ in more than case, each of these gives the variant back**
(`Value.representations_faithful`), the text also in other letters and between blanks.  A name counts before the numeral
that it may look like, and of variants with one discriminant the first one gives its name.
-/
namespace RowBinding

/-! ## The case of names -/

namespace Text

theorem isBlank_toLower (c : Char) : isBlank c.toLower = isBlank c := by
  unfold Char.toLower
  split
  · rename_i hcapital
    have hlow : 65 ≤ c.toNat := UInt32.le_iff_toNat_le.1 hcapital.1
    have hhigh : c.toNat ≤ 90 := UInt32.le_iff_toNat_le.1 hcapital.2
    have hsmall : (c.val + 32).toNat = c.toNat + 32 := by
      rw [UInt32.toNat_add]
      show (c.toNat + 32) % 2 ^ 32 = _
      omega
    rw [isBlank_of_graphic (c := c) (by omega), isBlank_of_graphic]
    show 33 ≤ (c.val + 32).toNat ∧ (c.val + 32).toNat ≤ 126
    omega
  · rfl

theorem bare_map_toLower {cs : List Char} : Bare (cs.map Char.toLower) ↔ Bare cs := by
  simp [Bare, isBlank_toLower]

theorem bare_of_sameName {word name : String} (h : sameName word name = true) (hname : Bare name.toList) :
    Bare word.toList := by
  have hfolded : word.toList.map Char.toLower = name.toList.map Char.toLower := sameName_iff.1 h
  rw [← bare_map_toLower, hfolded, bare_map_toLower]
  exact hname

end Text

namespace EnumDef

variable {e f : EnumDef}

theorem discriminantOf?_congr {word name : String} (h : Text.sameName word name = true) :
    e.discriminantOf? word = e.discriminantOf? name := by
  have hsame : (fun v : Variant => Text.sameName v.name word) = fun v => Text.sameName v.name name := by
    funext v
    rw [Text.sameName, Text.sameName, Text.sameName_iff.1 h]
  rw [discriminantOf?, discriminantOf?, hsame]

theorem Legible.bare (he : e.Legible) {v : Variant} (hv : v ∈ e.variants) : Text.Bare v.name.toList :=
  (Text.encloses_iff.2 (he.trimmed v hv)).1

theorem exists_discriminantOf?_iff {name : String} :
    (∃ n, f.discriminantOf? name = some n) ↔ ∃ x ∈ f.variants, Text.sameName x.name name = true := by
  rw [← Option.isSome_iff_exists, discriminantOf?, Option.isSome_map, List.find?_isSome]

/-- No two variants have the same discriminant. -/
def Separate (e : EnumDef) : Prop := (e.variants.map (·.discriminant)).Nodup

instance (e : EnumDef) : Decidable e.Separate := inferInstanceAs (Decidable (List.Nodup _))

theorem nameOf?_discriminant (hf : f.Separate) {u : Variant} (hu : u ∈ f.variants) :
    f.nameOf? u.discriminant.toInt = some u.name := by
  have hcontains : f.contains u.discriminant.toInt = true := contains_iff.2 ⟨u, hu, rfl⟩
  obtain ⟨name, hname⟩ := Option.isSome_iff_exists.1 hcontains
  obtain ⟨w, hw, hdiscriminant, rfl⟩ := nameOf?_eq_some hname
  have hwu : w = u := List.inj_on_of_nodup_map hf hw hu (Bounded.eq_of_toInt hdiscriminant)
  rw [hname, hwu]

end EnumDef

/-! ## There and back -/

namespace Datum

variable {e f : EnumDef} {v : Variant} {d r : Datum}

/-- The text of a variant is the name of a variant with its discriminant. -/
theorem exists_text_enumeration (hv : v ∈ e.variants) :
    ∃ u ∈ e.variants, u.discriminant = v.discriminant ∧ e.nameOf? v.discriminant.toInt = some u.name ∧
      (enumeration e v.discriminant).text = u.name := by
  have hcontains : e.contains v.discriminant.toInt = true := EnumDef.contains_iff.2 ⟨v, hv, rfl⟩
  obtain ⟨name, hname⟩ := Option.isSome_iff_exists.1 hcontains
  obtain ⟨u, hu, hdiscriminant, rfl⟩ := EnumDef.nameOf?_eq_some hname
  refine ⟨u, hu, Bounded.eq_of_toInt hdiscriminant, hname, ?_⟩
  rw [text, hname]
  rfl

/-- **The name of a variant is read as the variant**, whatever the case of its letters and the blanks around it. -/
theorem read_name (he : e.Legible) (hv : v ∈ e.variants) {word : String} (hword : Text.sameName word v.name = true)
    {before after : List Char} (hbefore : Text.Blanks before) (hafter : Text.Blanks after) :
    read (String.ofList (before ++ (word.toList ++ after))) (.enumeration e) = .ok (enumeration e v.discriminant) := by
  have hbare : Text.Bare word.toList := Text.bare_of_sameName hword (he.bare hv)
  have htrimmed : Text.trimmed (String.ofList (before ++ (word.toList ++ after))) = word.toList := by
    rw [Text.trimmed, String.toList_ofList, Text.trim_enclosed hbefore hafter hbare]
  have hfound : e.discriminantOf? word = some v.discriminant := by
    rw [EnumDef.discriminantOf?_congr hword, EnumDef.discriminantOf?_name he hv]
  simp only [read, htrimmed, String.ofList_toList, hfound]

theorem matchVariant_eq_ok_iff {n : Discriminant} : matchVariant e n f = .ok r ↔
    ∃ name m, e.nameOf? n.toInt = some name ∧ f.discriminantOf? name = some m ∧ r = enumeration f m := by
  unfold matchVariant
  cases hname : e.nameOf? n.toInt with
  | none => simp
  | some name =>
    cases hm : f.discriminantOf? name with
    | none => simp [hm]
    | some m => simp [hm, eq_comm]

theorem exists_matchVariant_iff {n : Discriminant} {name : String} (h : e.nameOf? n.toInt = some name) :
    (∃ r, matchVariant e n f = .ok r) ↔ ∃ x ∈ f.variants, Text.sameName x.name name = true := by
  rw [← EnumDef.exists_discriminantOf?_iff]
  constructor
  · rintro ⟨r, hr⟩
    obtain ⟨name', m, hname', hm, -⟩ := matchVariant_eq_ok_iff.1 hr
    rw [h] at hname'
    exact ⟨m, Option.some.inj hname' ▸ hm⟩
  · rintro ⟨m, hm⟩
    exact ⟨_, matchVariant_eq_ok_iff.2 ⟨name, m, h, hm, rfl⟩⟩

/-- **Variants of the same name are matched in both directions.** -/
theorem matchVariant_back (he : e.Legible) (hf : f.Separate) (hv : v ∈ e.variants)
    (h : matchVariant e v.discriminant f = .ok r) :
    ∃ u ∈ f.variants, r = enumeration f u.discriminant ∧
      matchVariant f u.discriminant e = .ok (enumeration e v.discriminant) := by
  obtain ⟨u₀, hu₀, hdiscriminant, hname, -⟩ := exists_text_enumeration hv
  obtain ⟨name, m, hname', hm, rfl⟩ := matchVariant_eq_ok_iff.1 h
  obtain rfl : u₀.name = name := Option.some.inj (hname.symm.trans hname')
  obtain ⟨u, ⟨before, after, hvariants, hsame, -⟩, rfl⟩ := EnumDef.discriminantOf?_eq_some_iff.1 hm
  have hu : u ∈ f.variants := by simp [hvariants]
  refine ⟨u, hu, rfl, matchVariant_eq_ok_iff.2 ⟨u.name, v.discriminant, EnumDef.nameOf?_discriminant hf hu, ?_, rfl⟩⟩
  rw [EnumDef.discriminantOf?_congr hsame, EnumDef.discriminantOf?_name he hu₀, hdiscriminant]

end Datum

namespace Value

variable {e f : EnumDef} {v : Variant} {w : Value}

/-- A variant as a value of its enumeration. -/
abbrev variant (e : EnumDef) (v : Variant) : Value := datum (.enumeration e v.discriminant)

/-- A decimal or an integer that a variant becomes denotes its discriminant. -/
theorem convert_back_of_number (hv : v ∈ e.variants) {t : ValueType} (ht : t = .decimal ∨ ∃ k, t = .integer k)
    (h : (variant e v).convert t = .ok w) : w.convert (.enumeration e) = .ok (variant e v) := by
  obtain ⟨r, hr, rfl⟩ := convert_datum_eq_ok.1 h
  have hdenotes : r.denotes? = some (v.discriminant.toInt : ℚ) ∧ r.type.isEnum = false := by
    rcases ht with rfl | ⟨k, rfl⟩
    · obtain ⟨y, hy, hyx⟩ := Datum.exists_convert_decimal (d := .enumeration e v.discriminant) rfl
      obtain rfl : Datum.decimal y = r := Except.ok.inj (hy.symm.trans hr)
      exact ⟨congrArg some hyx, rfl⟩
    · obtain ⟨b, hb, rfl⟩ := (Datum.convert_integer_iff (d := .enumeration e v.discriminant) rfl).1 hr
      exact ⟨congrArg some hb.symm, rfl⟩
  have hback := (Datum.convert_enumeration_iff hdenotes.1 hdenotes.2).2 ⟨v, hv, rfl, rfl⟩
  exact convert_datum_eq_ok.2 ⟨_, hback, rfl⟩

theorem exists_convert_spanned_iff {k : IntKind} :
    (∃ w, (variant e v).convert (.integer k) = .ok w) ↔ k.Spans v.discriminant.toInt := by
  have hconvert {r : Datum} := Datum.convert_integer_iff (d := .enumeration e v.discriminant) (r := r) (k := k) rfl
  rw [IntKind.spans_iff_holds]
  constructor
  · rintro ⟨w, hw⟩
    obtain ⟨r, hr, -⟩ := convert_datum_eq_ok.1 hw
    obtain ⟨b, hb, -⟩ := hconvert.1 hr
    rw [Int.cast_inj.1 hb]
    exact b.holds
  · intro hholds
    exact ⟨_, convert_datum_eq_ok.2 ⟨_, hconvert.2 ⟨⟨_, hholds⟩, rfl, rfl⟩, rfl⟩⟩

theorem convert_name (he : e.Legible) (hv : v ∈ e.variants) {word : String} (hword : Text.sameName word v.name = true)
    {before after : List Char} (hbefore : Text.Blanks before) (hafter : Text.Blanks after) :
    (varchar (String.ofList (before ++ (word.toList ++ after)))).convert (.enumeration e) = .ok (variant e v) :=
  (convert_text_eq_ok_iff (t := .enumeration e) nofun).2 ⟨_, Datum.read_name he hv hword hbefore hafter, rfl⟩

theorem convert_matched_iff (hne : f ≠ e) : (variant e v).convert (.enumeration f) = .ok w ↔
    ∃ r, Datum.matchVariant e v.discriminant f = .ok r ∧ w = datum r := by
  have hconvert : (Datum.enumeration e v.discriminant).convert (.enumeration f) =
      Datum.matchVariant e v.discriminant f := if_neg fun h => hne (ValueType.enumeration.inj h).symm
  rw [convert_datum_eq_ok, hconvert]

theorem convert_back_of_matched (he : e.Legible) (hf : f.Separate) (hv : v ∈ e.variants)
    (h : (variant e v).convert (.enumeration f) = .ok w) : w.convert (.enumeration e) = .ok (variant e v) := by
  by_cases hne : f = e
  · subst hne
    have hw : w = variant f v := Except.ok.inj (h.symm.trans (lawful_convert.unchanged _ _ rfl))
    rw [hw]
    exact lawful_convert.unchanged _ _ rfl
  · obtain ⟨r, hr, rfl⟩ := (convert_matched_iff hne).1 h
    obtain ⟨u, -, rfl, hback⟩ := Datum.matchVariant_back he hf hv hr
    exact (convert_matched_iff (Ne.symm hne)).2 ⟨_, hback, rfl⟩

/-- **What a variant is turned into gives it back.**
- Its text is a name of its discriminant, and is read back in any case of its letters and between any blanks.
- A decimal takes every discriminant, an integer type the ones that it spans, and both give it back.
- Another enumeration takes it exactly if it has a variant of that name, and gives it back if its discriminants are
  separate. -/
theorem representations_faithful (e : EnumDef) (he : e.Legible) (v : Variant) (hv : v ∈ e.variants) :
    (∃ u ∈ e.variants, u.discriminant = v.discriminant ∧ (variant e v).convert .varchar = .ok (varchar u.name) ∧
      (∀ word before after, Text.sameName word u.name = true → Text.Blanks before → Text.Blanks after →
        (varchar (String.ofList (before ++ (word.toList ++ after)))).convert (.enumeration e) = .ok (variant e v)) ∧
      ∀ f, f ≠ e → ((∃ w, (variant e v).convert (.enumeration f) = .ok w) ↔
        ∃ x ∈ f.variants, Text.sameName x.name u.name = true)) ∧
    (∃ w, (variant e v).convert .decimal = .ok w) ∧
    (∀ k, (∃ w, (variant e v).convert (.integer k) = .ok w) ↔ k.Spans v.discriminant.toInt) ∧
    (∀ t w, t = .varchar ∨ t = .decimal ∨ (∃ k, t = .integer k) → (variant e v).convert t = .ok w →
      w.convert (.enumeration e) = .ok (variant e v)) ∧
    ∀ f w, f.Separate → (variant e v).convert (.enumeration f) = .ok w →
      w.convert (.enumeration e) = .ok (variant e v) := by
  obtain ⟨u, hu, hdiscriminant, hname, htext⟩ := Datum.exists_text_enumeration hv
  have hsame : variant e u = variant e v := by rw [variant, hdiscriminant]
  have hvarchar : (variant e v).convert .varchar = .ok (varchar u.name) := by rw [convert_varchar, htext]
  have hread : ∀ word before after, Text.sameName word u.name = true → Text.Blanks before → Text.Blanks after →
      (varchar (String.ofList (before ++ (word.toList ++ after)))).convert (.enumeration e) = .ok (variant e v) :=
    fun word before after hword hbefore hafter => hsame ▸ convert_name he hu hword hbefore hafter
  obtain ⟨y, hy, -⟩ := Datum.exists_convert_decimal (d := .enumeration e v.discriminant) rfl
  refine ⟨⟨u, hu, hdiscriminant, hvarchar, hread, fun f hne => ?_⟩, ⟨_, convert_datum_eq_ok.2 ⟨_, hy, rfl⟩⟩,
    fun k => exists_convert_spanned_iff, fun t w ht h => ?_, fun f w hf h => convert_back_of_matched he hf hv h⟩
  · rw [← Datum.exists_matchVariant_iff hname]
    constructor
    · rintro ⟨w, hw⟩
      obtain ⟨r, hr, -⟩ := (convert_matched_iff hne).1 hw
      exact ⟨r, hr⟩
    · rintro ⟨r, hr⟩
      exact ⟨_, (convert_matched_iff hne).2 ⟨r, hr, rfl⟩⟩
  · rcases ht with rfl | ht
    · obtain rfl : w = varchar u.name := Except.ok.inj (h.symm.trans hvarchar)
      have hplain := hread u.name [] [] (Text.sameName_refl _) nofun nofun
      rwa [List.append_nil, List.nil_append, String.ofList_toList] at hplain
    · exact convert_back_of_number hv ht h

/-- A shelf whose name is the number of other shelves. -/
def topShelf : Variant := ⟨"7", ⟨9223372036854775807, by decide⟩⟩

/-- Shelves, two of which share their number. -/
def shelves : EnumDef := ⟨"Shelf", [⟨"Left", ⟨7, by decide⟩⟩, ⟨"Right", ⟨7, by decide⟩⟩, topShelf]⟩

/-- The shelves of another house. -/
def racks : EnumDef := ⟨"Rack", [⟨"LEFT", ⟨-9223372036854775808, by decide⟩⟩, ⟨"7", ⟨0, by decide⟩⟩]⟩

/-- The top shelf comes back by its name, between blanks as well, and as one of the racks, while the integers with 32
bits do not reach its number. -/
theorem representations_faithful_topShelf : shelves.Legible ∧ topShelf ∈ shelves.variants ∧
    (varchar " 7\n").convert (.enumeration shelves) = .ok (variant shelves topShelf) ∧
    (¬ ∃ w, (variant shelves topShelf).convert (.integer .uint32) = .ok w) ∧ racks.Separate ∧
    (variant racks ⟨"7", ⟨0, by decide⟩⟩).convert (.enumeration shelves) = .ok (variant shelves topShelf) := by
  have hlegible : shelves.Legible := ⟨by decide, by decide⟩
  have hmem : topShelf ∈ shelves.variants := by decide
  have hseparate : racks.Separate := by decide
  obtain ⟨⟨u, -, -, htext, hread, -⟩, -, hinteger, -, hmatched⟩ :=
    representations_faithful shelves hlegible topShelf hmem
  refine ⟨hlegible, hmem, ?_, ?_, hseparate, hmatched racks _ hseparate (by decide)⟩
  · have hname : (variant shelves topShelf).convert .varchar = .ok (varchar "7") := by decide
    have hu : u.name = "7" := Datum.varchar.inj (Value.datum.inj (Except.ok.inj (htext.symm.trans hname)))
    exact hread "7" [' '] ['\n'] (by rw [hu]; rfl) (by decide) (by decide)
  · rw [hinteger]
    decide

end Value

end RowBinding
