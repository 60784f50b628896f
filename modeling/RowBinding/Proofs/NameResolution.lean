import RowBinding.Proofs.Assignment
/-!
# Who finds whom

A parameter looks for a field, and a field that is left over looks for a member.  Both start from a name and take the
first element that has it, a name in the store counting before a name of one's own.  **What a parameter or a field finds
is said here by rules on names and positions alone**, and the look-ups find exactly that (`parameterField?_eq_some_iff`,
`memberOf?_eq_some_iff`).
-/
namespace RowBinding

variable {α β : Type}

/-- The position is that of the first element with a property. -/
def FirstAt (P : β → Prop) (l : List β) (i : Nat) : Prop :=
  ∃ b, l[i]? = some b ∧ P b ∧ ∀ j, j < i → ∀ c, l[j]? = some c → ¬ P c

theorem findIdx?_eq_some_iff_firstAt {q : β → Bool} {l : List β} {i : Nat} :
    l.findIdx? q = some i ↔ FirstAt (q · = true) l i := by
  rw [List.findIdx?_eq_some_iff_getElem]
  constructor
  · rintro ⟨hi, hq, hbefore⟩
    refine ⟨l[i], List.getElem?_eq_getElem hi, hq, fun j hj c hc => ?_⟩
    obtain ⟨hjl, rfl⟩ := List.getElem?_eq_some_iff.1 hc
    exact hbefore j hj
  · rintro ⟨b, hb, hq, hbefore⟩
    obtain ⟨hi, rfl⟩ := List.getElem?_eq_some_iff.1 hb
    exact ⟨hi, hq, fun j hj => hbefore j hj _ (List.getElem?_eq_getElem (Nat.lt_trans hj hi))⟩

/-! ## Fields of parameters -/

/-- The field of a member: the first one of its store name; where no field has that name, or the member has none, the
first one of its own name. -/
inductive MemberDef.FoundAt (m : MemberDef α) (fields : List Field) : Nat → Prop
  | byStoreName {name : String} {i : Nat} (hname : m.mappedName = some name)
      (h : FirstAt (fun f => f.isNamed name = true) fields i) : FoundAt m fields i
  | byOwnName {i : Nat} (hno : ∀ name, m.mappedName = some name → ∀ f ∈ fields, f.isNamed name = false)
      (h : FirstAt (fun f => f.isNamed m.name = true) fields i) : FoundAt m fields i

theorem MemberDef.fieldIn?_eq_some_iff {m : MemberDef α} {fields : List Field} {i : Nat} :
    m.fieldIn? fields = some i ↔ m.FoundAt fields i := by
  rw [fieldIn?, Option.or_eq_some_iff, Option.bind_eq_some_iff, Option.bind_eq_none_iff]
  constructor
  · rintro (⟨name, hname, h⟩ | ⟨hno, h⟩)
    · exact .byStoreName hname (findIdx?_eq_some_iff_firstAt.1 h)
    · exact .byOwnName (fun name hname => List.findIdx?_eq_none_iff.1 (hno name hname))
        (findIdx?_eq_some_iff_firstAt.1 h)
  · rintro (⟨hname, h⟩ | ⟨hno, h⟩)
    · exact .inl ⟨_, hname, findIdx?_eq_some_iff_firstAt.2 h⟩
    · exact .inr ⟨fun name hname => List.findIdx?_eq_none_iff.2 (hno name hname),
        findIdx?_eq_some_iff_firstAt.2 h⟩

namespace EntityDef

variable {e : EntityDef α} {fields : List Field}

/-- The first member with a name of its own. -/
def MemberAt (e : EntityDef α) (name : String) (k : Nat) : Prop :=
  FirstAt (fun m => Text.sameName m.name name = true) e.members k

theorem memberNamed?_eq_some_iff {name : String} {k : Nat} : e.memberNamed? name = some k ↔ e.MemberAt name k :=
  findIdx?_eq_some_iff_firstAt

/-- The field of a parameter: that of the first member of its name; where this member finds none, or there is no such
member, the first field of the parameter's own name. -/
inductive ParameterAt (e : EntityDef α) (fields : List Field) (name : String) : Nat → Prop
  | throughMember {k i : Nat} {m : MemberDef α} (hk : e.MemberAt name k) (hm : e.members[k]? = some m)
      (h : m.FoundAt fields i) : ParameterAt e fields name i
  | byItself {i : Nat} (hno : ∀ k m, e.MemberAt name k → e.members[k]? = some m → ∀ j, ¬ m.FoundAt fields j)
      (h : FirstAt (fun f => f.isNamed name = true) fields i) : ParameterAt e fields name i

/-- **A parameter finds its field.** -/
theorem parameterField?_eq_some_iff {name : String} {i : Nat} :
    e.parameterField? fields name = some i ↔ e.ParameterAt fields name i := by
  have hthrough : ∀ j, ((e.memberNamed? name).bind fun k => e.members[k]?.bind (·.fieldIn? fields)) = some j ↔
      ∃ k m, e.MemberAt name k ∧ e.members[k]? = some m ∧ m.FoundAt fields j := by
    intro j
    simp only [Option.bind_eq_some_iff, memberNamed?_eq_some_iff, MemberDef.fieldIn?_eq_some_iff, exists_and_left]
  rw [parameterField?, Option.or_eq_some_iff, hthrough, Option.eq_none_iff_forall_ne_some]
  simp only [ne_eq, hthrough, not_exists, not_and]
  constructor
  · rintro (⟨k, m, hk, hm, h⟩ | ⟨hno, h⟩)
    · exact .throughMember hk hm h
    · exact .byItself (fun k m hk hm j => hno j k m hk hm) (findIdx?_eq_some_iff_firstAt.1 h)
  · rintro (⟨hk, hm, h⟩ | ⟨hno, h⟩)
    · exact .inl ⟨_, _, hk, hm, h⟩
    · exact .inr ⟨fun j k m hk hm => hno k m hk hm j, findIdx?_eq_some_iff_firstAt.2 h⟩

/-! ## Members of fields -/

/-- The member of a field: the first one with that store name; where there is none, the first one with that name of its
own. -/
inductive Resolves (e : EntityDef α) (f : Field) : Nat → Prop
  | byStoreName {m : Nat}
      (h : FirstAt (fun d => ∃ name, d.mappedName = some name ∧ f.isNamed name = true) e.members m) : Resolves e f m
  | byOwnName {m : Nat} (hno : ∀ d ∈ e.members, ∀ name, d.mappedName = some name → f.isNamed name = false)
      (h : FirstAt (fun d => f.isNamed d.name = true) e.members m) : Resolves e f m

/-- **A field finds its member.** -/
theorem memberOf?_eq_some_iff {f : Field} {m : Nat} : e.memberOf? f = some m ↔ e.Resolves f m := by
  rw [memberOf?, Option.or_eq_some_iff, findIdx?_eq_some_iff_firstAt, findIdx?_eq_some_iff_firstAt,
    List.findIdx?_eq_none_iff]
  simp only [Option.any_eq_true, Option.any_eq_false]
  constructor
  · rintro (h | ⟨hno, h⟩)
    · exact .byStoreName h
    · exact .byOwnName hno h
  · rintro (h | ⟨hno, h⟩)
    · exact .inl h
    · exact .inr ⟨hno, h⟩

end EntityDef

end RowBinding
