import RowBinding.Proofs.Staging
/-!
# The order of parameters

The parameters of an entity are one for each member.  **They come in the order of the first store fields of their names**
(`analyzeParameters_storeOrder`): a member with a store field comes before one without, and members with one store field,
or with none, keep the order of declaration.
-/
namespace RowBinding

variable {α β : Type}

/-! ## Sorting -/

/-- Sorting keeps the order among equals: what comes first in the sorted list does not come later in the list itself,
unless it is smaller. -/
theorem pairwise_mergeSort_zipIdx {le : β → β → Bool} (trans : ∀ a b c, le a b = true → le b c = true → le a c = true)
    (total : ∀ a b, (le a b || le b a) = true) (l : List β) : ∃ sorted : List (β × Nat),
      sorted.Perm l.zipIdx ∧ sorted.map Prod.fst = l.mergeSort le ∧
      sorted.Pairwise fun a b => le a.1 b.1 = true ∧ (le b.1 a.1 = true → a.2 < b.2) := by
  refine ⟨l.zipIdx.mergeSort (List.zipIdxLE le), List.mergeSort_perm _ _, List.mergeSort_zipIdx, ?_⟩
  have hsorted := List.pairwise_mergeSort (List.zipIdxLE_trans trans) (List.zipIdxLE_total total) l.zipIdx
  have hdistinct : ((l.zipIdx.mergeSort (List.zipIdxLE le)).map Prod.snd).Nodup := by
    rw [((List.mergeSort_perm l.zipIdx (List.zipIdxLE le)).map Prod.snd).nodup_iff, List.zipIdx_map_snd]
    exact List.nodup_range'
  refine (hsorted.and (List.pairwise_map.1 (List.nodup_iff_pairwise_ne.1 hdistinct))).imp fun {a b} ⟨hab, hne⟩ => ?_
  unfold List.zipIdxLE at hab
  by_cases hle : le a.1 b.1 = true
  · refine ⟨hle, fun hge => ?_⟩
    rw [if_pos hle, if_pos hge, decide_eq_true_eq] at hab
    omega
  · rw [if_neg hle] at hab
    cases hab

/-! ## The order of members -/

namespace EntityDef

/-- The position of the first store field of a member's store name. -/
def columnOf? (e : EntityDef α) (fields : List Field) (i : Nat) : Option Nat :=
  e.members[i]?.bind fun m => Field.positionOf? fields m.fieldName

/-- The member at one position is sent before the member at another. -/
def SentBefore (e : EntityDef α) (fields : List Field) (i j : Nat) : Prop :=
  match e.columnOf? fields i, e.columnOf? fields j with
  | some k, some l => k < l ∨ k = l ∧ i < j
  | some _, none => True
  | none, some _ => False
  | none, none => i < j

/-- The positions of the members, each of them once, in the order in which the members are sent. -/
structure StoreOrder (e : EntityDef α) (fields : List Field) (order : List Nat) : Prop where
  perm : order.Perm (List.range e.members.length)
  sorted : order.Pairwise (e.SentBefore fields)

variable {e : EntityDef α} {fields : List Field}

theorem columnOf?_lt {i k : Nat} (h : e.columnOf? fields i = some k) : k < fields.length := by
  obtain ⟨m, -, hk⟩ := Option.bind_eq_some_iff.1 h
  exact Field.positionOf?_lt hk

theorem SentBefore.asymm {i j : Nat} (h : e.SentBefore fields i j) : ¬ e.SentBefore fields j i := by
  unfold SentBefore at h ⊢
  generalize e.columnOf? fields i = k at h ⊢
  generalize e.columnOf? fields j = l at h ⊢
  match k, l, h with
  | some k, some l, h =>
    dsimp only at h ⊢
    omega
  | some _, none, _ => exact not_false
  | none, none, h => exact Nat.lt_asymm h

/-- There is one order. -/
theorem StoreOrder.unique {order other : List Nat} (h : e.StoreOrder fields order) (h' : e.StoreOrder fields other) :
    order = other :=
  (h.perm.trans h'.perm.symm).eq_of_pairwise (fun _ _ _ _ hij hji => absurd hji hij.asymm) h.sorted h'.sorted

/-- Without store fields the order is that of declaration. -/
theorem StoreOrder.eq_range {order : List Nat} (h : e.StoreOrder [] order) : order = List.range e.members.length := by
  have hcolumn : ∀ i, e.columnOf? [] i = none := by
    intro i
    cases hk : e.columnOf? [] i with
    | none => rfl
    | some k => exact absurd (columnOf?_lt hk) (Nat.not_lt_zero k)
  refine h.unique ⟨.refl _, List.pairwise_lt_range.imp fun {i j} hij => ?_⟩
  rw [SentBefore, hcolumn, hcolumn]
  exact hij

/-- The members at the positions are the members, in another order. -/
theorem StoreOrder.perm_members {order : List Nat} (h : e.StoreOrder fields order) {ms : List (MemberDef α)}
    (hms : List.Forall₂ (fun i m => e.members[i]? = some m) order ms) : ms.Perm e.members := by
  have hrange : List.Forall₂ (fun i m => e.members[i]? = some m) (List.range e.members.length) e.members := by
    refine forall₂_of_getElem? List.length_range fun k i m hi hm => ?_
    obtain ⟨_, rfl⟩ := List.getElem?_eq_some_iff.1 hi
    rwa [List.getElem_range]
  have hmembers := (h.perm.filterMap (e.members[·]?)).trans (.of_eq (filterMap_eq_of_forall₂ hrange))
  rwa [filterMap_eq_of_forall₂ hms] at hmembers

end EntityDef

/-! ## Bindings -/

namespace ParameterBinding

variable {fields : List Field}

theorem before_iff {a b : ParameterBinding} :
    before fields a b = true ↔ a.field.getD fields.length ≤ b.field.getD fields.length := by
  rw [before, decide_eq_true_eq]

theorem before_trans (a b c : ParameterBinding) (hab : before fields a b = true) (hbc : before fields b c = true) :
    before fields a c = true := by
  rw [before_iff] at *
  omega

theorem before_total (a b : ParameterBinding) : (before fields a b || before fields b a) = true := by
  rw [Bool.or_eq_true, before_iff, before_iff]
  omega

/-- A binding that sorting leaves before another one is of a member that is sent before. -/
theorem sentBefore {e : EntityDef α} {a b : ParameterBinding} (ha : a.field = e.columnOf? fields a.member)
    (hb : b.field = e.columnOf? fields b.member) (hle : before fields a b = true)
    (htie : before fields b a = true → a.member < b.member) : e.SentBefore fields a.member b.member := by
  rw [before_iff, ha, hb] at hle htie
  rw [EntityDef.SentBefore]
  cases hk : e.columnOf? fields a.member with
  | some k =>
    cases hl : e.columnOf? fields b.member with
    | some l =>
      rw [hk, hl, Option.getD_some, Option.getD_some] at hle htie
      show k < l ∨ k = l ∧ a.member < b.member
      omega
    | none => trivial
  | none =>
    cases hl : e.columnOf? fields b.member with
    | some l =>
      have hlt := EntityDef.columnOf?_lt hl
      rw [hk, hl, Option.getD_none, Option.getD_some] at hle
      omega
    | none => exact htie (by rw [hk, hl])

end ParameterBinding

namespace Plan

variable {e : EntityDef α} {p : Fingerprint} {source : TypeDef α} {bs : List ParameterBinding}

/-- Bindings are found exactly for an entity with members and for labels that differ. -/
theorem analyzeParameters_eq_ok_iff : (TypeDef.entity e).analyzeParameters source p = .ok bs ↔
    Field.Distinct p.fields ∧ e.members ≠ [] ∧
      bs = (e.members.zipIdx.map fun mi => mi.1.parameterBinding mi.2 (source.through? p) p.fields).mergeSort
        (ParameterBinding.before p.fields) := by
  rw [TypeDef.analyzeParameters, Result.bind_eq_ok_iff, ← Fingerprint.checkUnique_iff]
  constructor
  · rintro ⟨_, hunique, h⟩
    dsimp only at h
    split at h
    · cases h
    · rename_i hmembers
      exact ⟨hunique, by simpa using hmembers, (Except.ok.inj h).symm⟩
  · rintro ⟨hunique, hmembers, rfl⟩
    exact ⟨(), hunique, if_neg (by simpa using hmembers)⟩

/-- Each binding is the one of its member. -/
theorem analyzeParameters_binding (h : (TypeDef.entity e).analyzeParameters source p = .ok bs) :
    ∀ b ∈ bs, ∃ m, e.members[b.member]? = some m ∧ b = m.parameterBinding b.member (source.through? p) p.fields := by
  intro b hb
  obtain ⟨⟨m, i⟩, hmi, rfl⟩ := List.mem_map.1 ((analyzeParameters_perm h).mem_iff.1 hb)
  exact ⟨m, List.mem_zipIdx_iff_getElem?.1 hmi, rfl⟩

theorem field_of_binding (h : (TypeDef.entity e).analyzeParameters source p = .ok bs) {b : ParameterBinding} (hb : b ∈ bs) :
    b.field = e.columnOf? p.fields b.member := by
  obtain ⟨m, hm, hbinding⟩ := analyzeParameters_binding h b hb
  rw [EntityDef.columnOf?, hm, hbinding]
  rfl

/-- **Bindings come in the order of the store fields.** -/
theorem analyzeParameters_storeOrder (h : (TypeDef.entity e).analyzeParameters source p = .ok bs) :
    e.StoreOrder p.fields (bs.map (·.member)) := by
  have hmembers := map_member_bindings e (source.through? p) p.fields
  refine ⟨hmembers ▸ (analyzeParameters_perm h).map _, ?_⟩
  obtain ⟨-, -, hbs⟩ := analyzeParameters_eq_ok_iff.1 h
  obtain ⟨sorted, hperm, hfst, hpairs⟩ := pairwise_mergeSort_zipIdx ParameterBinding.before_trans
    ParameterBinding.before_total (e.members.zipIdx.map fun mi => mi.1.parameterBinding mi.2 (source.through? p) p.fields)
  rw [← hbs] at hfst
  rw [← hfst, List.pairwise_map, List.pairwise_map]
  -- the position before sorting is the position of the member
  have hposition : ∀ c ∈ sorted, c.1.member = c.2 := by
    intro c hc
    have hat := congrArg (Option.map (·.member)) (List.mem_zipIdx_iff_getElem?.1 (hperm.mem_iff.1 hc))
    rw [← List.getElem?_map, hmembers] at hat
    obtain ⟨_, hi⟩ := List.getElem?_eq_some_iff.1 hat
    simpa using hi.symm
  have hfield : ∀ c ∈ sorted, c.1.field = e.columnOf? p.fields c.1.member := fun c hc =>
    field_of_binding h (hfst ▸ List.mem_map_of_mem hc)
  refine hpairs.imp_of_mem fun {a b} ha hb ⟨hle, htie⟩ => ?_
  rw [← hposition a ha, ← hposition b hb] at htie
  exact ParameterBinding.sentBefore (hfield a ha) (hfield b hb) hle htie

/-- Only an entity has members to send. -/
theorem entity_of_ofParameters {rules : Rules α} {d : TypeDef α} {plan : Plan} (h : ofParameters rules d source p = .ok plan) :
    ∃ e, d = .entity e := by
  cases d with
  | entity e => exact ⟨e, rfl⟩
  | scalar s =>
    obtain ⟨bs, hbs, -⟩ := Result.bind_eq_ok_iff.1 h
    obtain ⟨_, -, hbs⟩ := Result.bind_eq_ok_iff.1 hbs
    cases hbs

/-- **A plan for parameters has one operation for each binding.** -/
theorem ofParameters_entity {rules : Rules α} {plan : Plan} (h : ofParameters rules (.entity e) source p = .ok plan) :
    ∃ bs, (TypeDef.entity e).analyzeParameters source p = .ok bs ∧ plan.fingerprint = p ∧
      List.Forall₂ (fun b op => outboundOperation? rules p e source b = some op) bs plan.operations := by
  obtain ⟨bs, hbs, h⟩ := Result.bind_eq_ok_iff.1 h
  obtain rfl := Except.ok.inj h
  refine ⟨bs, hbs, rfl, forall₂_filterMap fun b hb => ?_⟩
  obtain ⟨m, hm, -⟩ := analyzeParameters_binding hbs b hb
  simp [outboundOperation?, hm]

end Plan

end RowBinding
