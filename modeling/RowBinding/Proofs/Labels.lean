import RowBinding.Plan.Analysis
import RowBinding.Proofs.RelatedLists
/-!
# Labels and positions

A name finds a field by its label and in no other way.  **Where no two labels are the same name, a name finds the
field that has it wherever that field stands** (`positionOf?_of_getElem?`), and the check of a shape accepts exactly the
shapes of this kind (`checkUnique_iff`).
-/
namespace RowBinding

namespace Field

/-- The label without its case: what a name is compared with. -/
def key (f : Field) : List Char := Text.folded f.label

theorem isNamed_iff {f : Field} {name : String} : f.isNamed name = true ↔ f.key = Text.folded name :=
  Text.sameName_iff

/-- No two labels are the same name. -/
def Distinct (fields : List Field) : Prop := (fields.map key).Nodup

instance (fields : List Field) : Decidable (Distinct fields) :=
  inferInstanceAs (Decidable (fields.map key).Nodup)

theorem Distinct.eq_of_key {fields : List Field} (h : Distinct fields) {i j : Nat} {f g : Field}
    (hf : fields[i]? = some f) (hg : fields[j]? = some g) (hk : f.key = g.key) : i = j := by
  obtain ⟨hi, rfl⟩ := List.getElem?_eq_some_iff.1 hf
  obtain ⟨hj, rfl⟩ := List.getElem?_eq_some_iff.1 hg
  have hi' : i < (fields.map key).length := by rwa [List.length_map]
  have hj' : j < (fields.map key).length := by rwa [List.length_map]
  have heq : (fields.map key)[i] = (fields.map key)[j] := by rw [List.getElem_map, List.getElem_map, hk]
  exact (List.Nodup.getElem_inj_iff h).1 heq

theorem Distinct.eq_of_mem {fields : List Field} (h : Distinct fields) {f g : Field} (hf : f ∈ fields)
    (hg : g ∈ fields) (hk : f.key = g.key) : f = g :=
  List.inj_on_of_nodup_map h hf hg hk

theorem Distinct.nodup {fields : List Field} (h : Distinct fields) : fields.Nodup := List.Nodup.of_map _ h

theorem Distinct.perm {fs gs : List Field} (h : Distinct fs) (p : gs.Perm fs) : Distinct gs :=
  (p.map key).nodup_iff.2 h

/-! ## The position of a name -/

theorem positionOf?_eq_some {fields : List Field} {name : String} {i : Nat} (h : positionOf? fields name = some i) :
    ∃ f, fields[i]? = some f ∧ f.isNamed name = true := by
  obtain ⟨hi, hn, -⟩ := List.findIdx?_eq_some_iff_getElem.1 h
  exact ⟨fields[i], List.getElem?_eq_getElem hi, hn⟩

theorem positionOf?_lt {fields : List Field} {name : String} {i : Nat} (h : positionOf? fields name = some i) :
    i < fields.length := (List.findIdx?_eq_some_iff_getElem.1 h).1

theorem positionOf?_isSome_iff {fields : List Field} {name : String} :
    (positionOf? fields name).isSome = true ↔ ∃ f ∈ fields, f.isNamed name = true := by
  rw [positionOf?, List.findIdx?_isSome, List.any_eq_true]

/-- **A name finds the field that has it**, where the labels are distinct. -/
theorem positionOf?_of_getElem? {fields : List Field} (h : Distinct fields) {name : String} {i : Nat} {f : Field}
    (hf : fields[i]? = some f) (hn : f.isNamed name = true) : positionOf? fields name = some i := by
  obtain ⟨j, hj⟩ := Option.isSome_iff_exists.1
    (positionOf?_isSome_iff.2 ⟨f, List.mem_of_getElem? hf, hn⟩)
  obtain ⟨g, hg, hgn⟩ := positionOf?_eq_some hj
  rw [hj, h.eq_of_key hf hg ((isNamed_iff.1 hn).trans (isNamed_iff.1 hgn).symm)]

/-- The field that a name finds. -/
def named? (fields : List Field) (name : String) : Option Field := fields.find? (·.isNamed name)

theorem positionOf?_bind {fields : List Field} {name : String} :
    (positionOf? fields name).bind (fields[·]?) = named? fields name := by
  rw [positionOf?, named?, List.findIdx?_eq_map_findFinIdx?_val, List.find?_eq_map_findFinIdx?_getElem]
  cases fields.findFinIdx? (·.isNamed name) <;> simp

theorem named?_eq_some {fields : List Field} {name : String} {f : Field} (h : named? fields name = some f) :
    f ∈ fields ∧ f.isNamed name = true := by
  rw [named?] at h
  have hn := List.find?_some h
  exact ⟨List.mem_of_find?_eq_some h, hn⟩

/-- **The field a name finds is the one that has the name**, where the labels are distinct. -/
theorem named?_eq_some_iff {fields : List Field} (h : Distinct fields) {name : String} {f : Field} :
    named? fields name = some f ↔ f ∈ fields ∧ f.isNamed name = true := by
  constructor
  · exact named?_eq_some
  · rintro ⟨hf, hn⟩
    cases hg : named? fields name with
    | none =>
      rw [named?, List.find?_eq_none] at hg
      exact absurd hn (hg f hf)
    | some g =>
      obtain ⟨hm, hgn⟩ := named?_eq_some hg
      rw [h.eq_of_mem hm hf ((isNamed_iff.1 hgn).trans (isNamed_iff.1 hn).symm)]

/-- Which field a name finds does not depend on the order of the fields. -/
theorem named?_perm {fs gs : List Field} (h : Distinct fs) (p : gs.Perm fs) (name : String) :
    named? gs name = named? fs name := by
  ext f
  rw [named?_eq_some_iff h, named?_eq_some_iff (h.perm p), p.mem_iff]

end Field

/-! ## The check of a shape -/

namespace Fingerprint

theorem duplicate?_eq_none_iff : ∀ (fs seen : List Field), duplicate? seen fs = none ↔
    Field.Distinct fs ∧ ∀ f ∈ fs, ∀ g ∈ seen, g.key ≠ f.key
  | [], seen => by simp [duplicate?, Field.Distinct]
  | f :: fs, seen => by
    have hseen : (seen.any (·.isNamed f.label)) = true ↔ ∃ g ∈ seen, g.key = f.key := by
      simp [Field.isNamed_iff, Field.key]
    rw [duplicate?]
    split
    · rename_i hdup
      obtain ⟨g, hg, hk⟩ := hseen.1 hdup
      simp only [reduceCtorEq, false_iff, not_and]
      exact fun _ h => h f List.mem_cons_self g hg hk
    · rename_i hdup
      have hno : ∀ g ∈ seen, g.key ≠ f.key := fun g hg hk => hdup (hseen.2 ⟨g, hg, hk⟩)
      rw [duplicate?_eq_none_iff fs (seen ++ [f]), Field.Distinct, Field.Distinct, List.map_cons, List.nodup_cons]
      constructor
      · rintro ⟨hd, h⟩
        refine ⟨⟨fun hm => ?_, hd⟩, fun e he g hg => ?_⟩
        · obtain ⟨e, he, hk⟩ := List.mem_map.1 hm
          exact h e he f (by simp) hk.symm
        · rcases List.mem_cons.1 he with rfl | he
          · exact hno g hg
          · exact h e he g (List.mem_append_left _ hg)
      · rintro ⟨⟨hf, hd⟩, h⟩
        refine ⟨hd, fun e he g hg => ?_⟩
        rcases List.mem_append.1 hg with hg | hg
        · exact h e (List.mem_cons_of_mem _ he) g hg
        · rw [List.mem_singleton.1 hg]
          exact fun hk => hf (List.mem_map.2 ⟨e, he, hk.symm⟩)

/-- **The check accepts a shape exactly when its labels are distinct.** -/
theorem checkUnique_iff (p : Fingerprint) : p.checkUnique = .ok () ↔ Field.Distinct p.fields := by
  have h := duplicate?_eq_none_iff p.fields []
  rw [checkUnique]
  cases hd : duplicate? [] p.fields with
  | none => simpa using (h.1 hd).1
  | some f =>
    simp only [reduceCtorEq, false_iff]
    intro hn
    rw [h.2 ⟨hn, fun _ _ _ hg => by cases hg⟩] at hd
    cases hd

end Fingerprint

end RowBinding
