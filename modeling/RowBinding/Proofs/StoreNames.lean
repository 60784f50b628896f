import RowBinding.Proofs.Staging
/-!
# Members and their columns

Where neither the names of the members nor their names in the store repeat, names cannot mislead: **a staged column
finds the member it was made for, and a parameter of that member's name finds the column** (`memberOf?_staged`,
`parameterField?_staged`).
-/
namespace RowBinding

variable {α β γ : Type}

namespace EntityDef

/-- No two members have one name, and no two have one name in the store. -/
structure WellNamed (e : EntityDef α) : Prop where
  own : (e.members.map fun m => Text.folded m.name).Nodup
  store : (e.members.map fun m => Text.folded m.fieldName).Nodup

/-- The parameter is that of the member at a position: it has the member's name and type. -/
def Feeds (e : EntityDef α) (param : ParamDef) (i : Nat) : Prop :=
  ∃ m, e.members[i]? = some m ∧ Text.sameName m.name param.name = true ∧ param.type = m.type ∧
    param.nullable = m.nullable

variable {e : EntityDef α} {i : Nat} {m : MemberDef α}

theorem memberNamed?_eq (h : e.WellNamed) (hm : e.members[i]? = some m) {name : String}
    (hname : Text.sameName m.name name = true) : e.memberNamed? name = some i := by
  refine findIdx?_of_nodup h.own hm hname fun n _ hn => ?_
  exact (Text.sameName_iff.1 hn).trans (Text.sameName_iff.1 hname).symm

/-- A store name finds its own member, be it the mapped name or the only one. -/
theorem memberOf?_eq (h : e.WellNamed) (hm : e.members[i]? = some m) {f : Field} (hf : f.label = m.fieldName) :
    e.memberOf? f = some i := by
  have hnamed : ∀ {name : String}, f.isNamed name = true → Text.folded name = Text.folded m.fieldName := by
    intro name hn
    rw [← hf]
    exact (Field.isNamed_iff.1 hn).symm
  cases hmapped : m.mappedName with
  | some name =>
    have hstore : m.fieldName = name := by rw [MemberDef.fieldName, hmapped, Option.getD_some]
    have hfirst : (e.members.findIdx? fun n => n.mappedName.any f.isNamed) = some i := by
      refine findIdx?_of_nodup h.store hm ?_ fun n _ hn => ?_
      · rw [hmapped, Option.any_some, Field.isNamed_iff, Field.key, hf, hstore]
      · obtain ⟨other, hother, hn⟩ := (Option.any_eq_true _ _).1 hn
        rw [← hnamed hn, MemberDef.fieldName, hother, Option.getD_some]
    rw [memberOf?, hfirst, Option.some_or]
  | none =>
    have hstore : m.fieldName = m.name := by rw [MemberDef.fieldName, hmapped, Option.getD_none]
    have hnone : (e.members.findIdx? fun n => n.mappedName.any f.isNamed) = none := by
      rw [List.findIdx?_eq_none_iff]
      intro n hn
      by_contra hany
      obtain ⟨other, hother, hothern⟩ := (Option.any_eq_true _ _).1 (by simpa using hany)
      have hsame : n = m := by
        refine List.inj_on_of_nodup_map h.store hn (List.mem_of_getElem? hm) ?_
        rw [← hnamed hothern, MemberDef.fieldName, hother, Option.getD_some]
      rw [hsame, hmapped] at hother
      cases hother
    rw [memberOf?, hnone, Option.none_or]
    refine findIdx?_of_nodup h.own hm ?_ fun n _ hn => ?_
    · rw [Field.isNamed_iff, Field.key, hf, hstore]
    · rw [hnamed hn, hstore]

end EntityDef

namespace Staged

variable {e : EntityDef α} {storage : StorageType} {fields : List Field} {order : List Nat}

theorem exists_column (h : Staged e storage fields order) {i : Nat} {m : MemberDef α} (hm : e.members[i]? = some m) :
    ∃ (k : Nat) (f : Field), order[k]? = some i ∧ fields[k]? = some f ∧ f.label = m.fieldName ∧
      f.type = (Rules.written storage m.type).1 := by
  have hi : i ∈ order := h.perm.mem_iff.2 (List.mem_range.2 (List.getElem?_eq_some_iff.1 hm).1)
  obtain ⟨k, hk⟩ := List.getElem?_of_mem hi
  have hlt : k < fields.length := h.length ▸ (List.getElem?_eq_some_iff.1 hk).1
  have hf : fields[k]? = some fields[k] := List.getElem?_eq_getElem hlt
  obtain ⟨n, hn, hlabel, htype⟩ := h.column hk hf
  obtain rfl : m = n := Option.some.inj (hm.symm.trans hn)
  exact ⟨k, fields[k], hk, hf, hlabel, htype⟩

theorem nodup (h : Staged e storage fields order) : order.Nodup := h.perm.nodup_iff.2 List.nodup_range

theorem eq_of_order (h : Staged e storage fields order) {k l i : Nat} (hk : order[k]? = some i)
    (hl : order[l]? = some i) : k = l :=
  (List.getElem?_inj (List.getElem?_eq_some_iff.1 hk).1 h.nodup).1 (hk.trans hl.symm)

/-- **A staged column finds the member it was made for.** -/
theorem memberOf?_staged (h : Staged e storage fields order) (he : e.WellNamed) {k : Nat} {f : Field}
    (hf : fields[k]? = some f) : e.memberOf? f = order[k]? := by
  have hlt : k < order.length := h.length ▸ (List.getElem?_eq_some_iff.1 hf).1
  obtain ⟨m, hm, hlabel, -⟩ := h.column (List.getElem?_eq_getElem hlt) hf
  rw [EntityDef.memberOf?_eq he hm hlabel, List.getElem?_eq_getElem hlt]

/-- **A parameter finds the column of the member it is named after.** -/
theorem parameterField?_staged (h : Staged e storage fields order) (he : e.WellNamed) (hfields : Field.Distinct fields)
    {param : ParamDef} {i k : Nat} (hparam : e.Feeds param i) (hk : order[k]? = some i) :
    e.parameterField? fields param.name = some k := by
  obtain ⟨m, hm, hname, -⟩ := hparam
  obtain ⟨l, f, hl, hf, hlabel, -⟩ := h.exists_column hm
  obtain rfl := h.eq_of_order hk hl
  have hposition : Field.positionOf? fields m.fieldName = some k :=
    Field.positionOf?_of_getElem? hfields hf (Field.isNamed_iff.2 (by rw [Field.key, hlabel]))
  have hin : m.fieldIn? fields = some k := by
    rw [MemberDef.fieldName] at hposition
    rw [MemberDef.fieldIn?]
    cases hmapped : m.mappedName with
    | some name =>
      rw [hmapped, Option.getD_some] at hposition
      rw [Option.bind_some, hposition, Option.some_or]
    | none =>
      rw [hmapped, Option.getD_none] at hposition
      rw [Option.bind_none, Option.none_or, hposition]
  rw [EntityDef.parameterField?, EntityDef.memberNamed?_eq he hm hname, Option.bind_some, hm, Option.bind_some, hin,
    Option.some_or]

end Staged

end RowBinding
