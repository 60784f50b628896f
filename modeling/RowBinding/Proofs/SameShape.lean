import RowBinding.Proofs.Plans
/-!
# Shapes with the same columns

Two shapes have the same columns when their labels are the same names and their types are equal, column by column.
**A name finds the same position in both** (`SameColumns.positionOf?`), and so the same constructor is selected, with the
same arguments, and the same members are assigned.  Whatever else the fields say plays no part.
-/
namespace RowBinding

variable {α : Type}

namespace Field

/-- The same columns in the same order. -/
abbrev SameColumns (fs gs : List Field) : Prop := List.Forall₂ (fun f g => f.key = g.key ∧ f.type = g.type) fs gs

theorem sameColumn_iff {f g : Field} : f.sameColumn g = true ↔ f.key = g.key ∧ f.type = g.type := by
  rw [sameColumn, Bool.and_eq_true, isNamed_iff, beq_iff_eq]
  rfl

theorem SameColumns.refl (fs : List Field) : SameColumns fs fs := List.forall₂_same.2 fun _ _ => ⟨rfl, rfl⟩

theorem SameColumns.symm {fs gs : List Field} (h : SameColumns fs gs) : SameColumns gs fs := by
  induction h with
  | nil => exact .nil
  | cons hfg _ ih => exact .cons ⟨hfg.1.symm, hfg.2.symm⟩ ih

theorem SameColumns.trans {fs gs hs : List Field} (h : SameColumns fs gs) (h' : SameColumns gs hs) : SameColumns fs hs :=
  forall₂_comp (fun _ _ _ hfg hgh => ⟨hfg.1.trans hgh.1, hfg.2.trans hgh.2⟩) h h'

theorem SameColumns.map_key {fs gs : List Field} (h : SameColumns fs gs) : fs.map key = gs.map key :=
  map_eq_of_forall₂ h fun _ _ hfg => hfg.1

theorem isNamed_congr {f g : Field} (h : f.key = g.key) (name : String) : f.isNamed name = g.isNamed name := by
  rw [Bool.eq_iff_iff, isNamed_iff, isNamed_iff, h]

theorem any_isNamed (fields : List Field) (name : String) :
    fields.any (·.isNamed name) = (fields.map key).any (· == Text.folded name) := by
  rw [List.any_map]
  rfl

theorem SameColumns.positionOf? {fs gs : List Field} (h : SameColumns fs gs) (name : String) :
    positionOf? fs name = positionOf? gs name := by
  rw [Field.positionOf?, Field.positionOf?]
  induction h with
  | nil => rfl
  | cons hfg _ ih => rw [List.findIdx?_cons, List.findIdx?_cons, ih, isNamed_congr hfg.1]

end Field

namespace Fingerprint

theorem sameFields_iff {fs gs : List Field} : sameFields fs gs = true ↔ Field.SameColumns fs gs := by
  rw [Field.SameColumns, sameFields, Bool.and_eq_true, beq_iff_eq, List.all_eq_true, List.forall₂_iff_zip]
  exact and_congr_right fun _ => ⟨fun h f g hfg => Field.sameColumn_iff.1 (h (f, g) hfg),
    fun h fg hfg => Field.sameColumn_iff.2 (h hfg)⟩

theorem same_iff {p q : Fingerprint} : p.same q = true ↔
    p.target = q.target ∧ p.source = q.source ∧ p.direction = q.direction ∧ Field.SameColumns p.fields q.fields := by
  rw [same, Bool.and_eq_true, Bool.and_eq_true, Bool.and_eq_true, sameFields_iff, beq_iff_eq, beq_iff_eq, beq_iff_eq,
    and_assoc, and_assoc]

theorem same_refl (p : Fingerprint) : p.same p = true := same_iff.2 ⟨rfl, rfl, rfl, .refl _⟩

theorem same_symm {p q : Fingerprint} (h : p.same q = true) : q.same p = true := by
  obtain ⟨ht, hs, hd, hf⟩ := same_iff.1 h
  exact same_iff.2 ⟨ht.symm, hs.symm, hd.symm, hf.symm⟩

theorem same_trans {p q r : Fingerprint} (h : p.same q = true) (h' : q.same r = true) : p.same r = true := by
  obtain ⟨ht, hs, hd, hf⟩ := same_iff.1 h
  obtain ⟨ht', hs', hd', hf'⟩ := same_iff.1 h'
  exact same_iff.2 ⟨ht.trans ht', hs.trans hs', hd.trans hd', hf.trans hf'⟩

/-- Keys that share a routine share it with the same keys. -/
theorem same_congr {p q : Fingerprint} (h : p.same q = true) (k : Fingerprint) : k.same p = k.same q := by
  rw [Bool.eq_iff_iff]
  exact ⟨fun hk => same_trans hk h, fun hk => same_trans hk (same_symm h)⟩

end Fingerprint

/-! ## Analysis -/

section Rows

variable {fs gs : List Field}

theorem MemberDef.fieldIn?_sameColumns (h : Field.SameColumns fs gs) (m : MemberDef α) : m.fieldIn? fs = m.fieldIn? gs := by
  rw [fieldIn?, fieldIn?, funext h.positionOf?]

namespace EntityDef

variable {e : EntityDef α}

theorem parameterField?_sameColumns (h : Field.SameColumns fs gs) (name : String) :
    e.parameterField? fs name = e.parameterField? gs name := by
  rw [parameterField?, parameterField?, h.positionOf?, funext (MemberDef.fieldIn?_sameColumns h)]

theorem memberOf?_congr {f g : Field} (h : f.key = g.key) : e.memberOf? f = e.memberOf? g := by
  rw [memberOf?, memberOf?, funext (Field.isNamed_congr h)]

theorem arguments?_sameColumns (h : Field.SameColumns fs gs) (c : ConstructorDef α) :
    e.arguments? fs c = e.arguments? gs c := by
  have hargument : e.argument? fs = e.argument? gs :=
    funext fun p => funext fun i => by rw [argument?, argument?, parameterField?_sameColumns h]
  rw [arguments?, arguments?, hargument]

theorem select?_sameColumns (h : Field.SameColumns fs gs) : e.select? fs = e.select? gs := by
  have hbetter : e.better fs = e.better gs :=
    funext fun best => funext fun candidate => by simp only [better, arguments?_sameColumns h]
  rw [select?, select?, hbetter]

theorem assign_congr {f g : Field} (h : f.key = g.key) (args : List ArgumentBinding) (bs : List MemberBinding) (i : Nat) :
    e.assign args bs (f, i) = e.assign args bs (g, i) := by
  simp only [assign, memberOf?_congr h]

theorem foldl_assign_sameColumns (h : Field.SameColumns fs gs) (args : List ArgumentBinding) (bs : List MemberBinding)
    (k : Nat) : (fs.zipIdx k).foldl (e.assign args) bs = (gs.zipIdx k).foldl (e.assign args) bs := by
  induction h generalizing bs k with
  | nil => rfl
  | cons hfg _ ih =>
    rw [List.zipIdx_cons, List.zipIdx_cons, List.foldl_cons, List.foldl_cons, assign_congr hfg.1, ih]

theorem assignments_sameColumns (h : Field.SameColumns fs gs) (args : List ArgumentBinding) :
    e.assignments fs args = e.assignments gs args := foldl_assign_sameColumns h args [] 0

end EntityDef

end Rows

section Parameters

variable {fs gs : List Field}

theorem MemberDef.parameterBinding_sameColumns (h : Field.SameColumns fs gs) (m : MemberDef α) (i : Nat)
    (source : Option (EntityDef α)) : m.parameterBinding i source fs = m.parameterBinding i source gs := by
  rw [parameterBinding, parameterBinding, h.positionOf?]

theorem ParameterBinding.before_sameColumns (h : Field.SameColumns fs gs) : before fs = before gs := by
  funext a b
  rw [before, before, h.length_eq]

theorem TypeDef.through?_same {p q : Fingerprint} (h : p.same q = true) (source : TypeDef α) :
    source.through? p = source.through? q := by
  obtain ⟨ht, hs, -, -⟩ := Fingerprint.same_iff.1 h
  cases source with
  | scalar s => rfl
  | entity e => simp only [through?, ht, hs]

end Parameters

end RowBinding
