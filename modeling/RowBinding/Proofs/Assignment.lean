import Mathlib.Data.Nat.Find
import RowBinding.Proofs.Selection
/-!
# The assignments of a shape

A field that feeds no parameter wants the member it names, if that member can be set and no parameter feeds it.
**The assignments are the first claims**: a member that fields want is assigned once, from the first of them
(`mem_assignments_iff`), and the assignments stand in the order of their fields.
-/
namespace RowBinding

namespace EntityDef

variable {α : Type} {e : EntityDef α} {fields : List Field} {args : List ArgumentBinding}

/-- The member can be set, and no argument feeds it. -/
def Open (e : EntityDef α) (args : List ArgumentBinding) (m : Nat) : Prop :=
  (∃ d, e.members[m]? = some d ∧ d.isWritable = true) ∧ ∀ a ∈ args, a.member ≠ some m

/-- The field at a position feeds no argument and names the member, which is open. -/
def Wants (e : EntityDef α) (fields : List Field) (args : List ArgumentBinding) (i m : Nat) : Prop :=
  ∃ f, fields[i]? = some f ∧ (∀ a ∈ args, a.field ≠ i) ∧ e.memberOf? f = some m ∧ e.Open args m

/-- Of the fields that want the member it is the first. -/
def First (e : EntityDef α) (fields : List Field) (args : List ArgumentBinding) (i m : Nat) : Prop :=
  e.Wants fields args i m ∧ ∀ j, j < i → ¬ e.Wants fields args j m

theorem Wants.lt {i m : Nat} (h : e.Wants fields args i m) : i < fields.length := by
  obtain ⟨f, hf, -⟩ := h
  exact (List.getElem?_eq_some_iff.1 hf).1

theorem Wants.eq {i m n : Nat} (h : e.Wants fields args i m) (k : e.Wants fields args i n) : m = n := by
  obtain ⟨f, hf, -, hm, -⟩ := h
  obtain ⟨g, hg, -, hn, -⟩ := k
  rw [hf] at hg
  rw [← Option.some.inj hg, hm] at hn
  exact Option.some.inj hn

theorem wants_append_of_lt {f : Field} {i m : Nat} (hi : i < fields.length) :
    e.Wants (fields ++ [f]) args i m ↔ e.Wants fields args i m := by
  rw [Wants, Wants, List.getElem?_append_left hi]

theorem wants_append_self {f : Field} {m : Nat} :
    e.Wants (fields ++ [f]) args fields.length m ↔
      (∀ a ∈ args, a.field ≠ fields.length) ∧ e.memberOf? f = some m ∧ e.Open args m := by
  constructor
  · rintro ⟨g, hg, h⟩
    obtain rfl : f = g := by simpa using hg
    exact h
  · exact fun h => ⟨f, by simp, h⟩

theorem exists_first_iff {m : Nat} : (∃ i, e.First fields args i m) ↔ ∃ i, e.Wants fields args i m := by
  classical
  constructor
  · exact fun ⟨i, h⟩ => ⟨i, h.1⟩
  · exact fun h => ⟨Nat.find h, Nat.find_spec h, fun j hj => Nat.find_min h hj⟩

theorem First.eq {i j m : Nat} (hi : e.First fields args i m) (hj : e.First fields args j m) : i = j := by
  rcases Nat.lt_trichotomy i j with h | h | h
  · exact absurd hi.1 (hj.2 i h)
  · exact h
  · exact absurd hj.1 (hi.2 j h)

/-! ## The loop -/

/-- What the assignments made from some fields are. -/
def Assigned (e : EntityDef α) (fields : List Field) (args : List ArgumentBinding) (bs : List MemberBinding) : Prop :=
  bs.Pairwise (fun a b => a.field < b.field) ∧ ∀ b, b ∈ bs ↔ e.First fields args b.field b.member

theorem isBound_eq_true_iff {bs : List MemberBinding} (h : e.Assigned fields args bs) {m : Nat} :
    isBound args bs m = true ↔ (∃ a ∈ args, a.member = some m) ∨ ∃ i, e.Wants fields args i m := by
  rw [isBound, Bool.or_eq_true, List.any_eq_true, List.any_eq_true, ← exists_first_iff]
  simp only [beq_iff_eq]
  refine or_congr_right ⟨?_, ?_⟩
  · rintro ⟨b, hb, rfl⟩
    exact ⟨b.field, (h.2 b).1 hb⟩
  · rintro ⟨i, hi⟩
    exact ⟨⟨i, m⟩, (h.2 ⟨i, m⟩).2 hi, rfl⟩

/-- One more field: it is assigned when it wants a member that nothing before it wants. -/
theorem assign_eq {bs : List MemberBinding} (h : e.Assigned fields args bs) (f : Field) :
    (∃ m, e.First (fields ++ [f]) args fields.length m ∧
        e.assign args bs (f, fields.length) = bs ++ [⟨fields.length, m⟩]) ∨
      (∀ m, ¬ e.First (fields ++ [f]) args fields.length m) ∧ e.assign args bs (f, fields.length) = bs := by
  have hbefore : ∀ m, (∀ j, j < fields.length → ¬ e.Wants (fields ++ [f]) args j m) ↔ ¬ ∃ j, e.Wants fields args j m := by
    intro m
    constructor
    · rintro hno ⟨j, hj⟩
      exact hno j hj.lt ((wants_append_of_lt hj.lt).2 hj)
    · exact fun hno j hj hw => hno ⟨j, (wants_append_of_lt hj).1 hw⟩
  simp only [assign]
  split
  · rename_i hany
    obtain ⟨a, ha, haf⟩ := List.any_eq_true.1 hany
    exact .inr ⟨fun m hm => (wants_append_self.1 hm.1).1 a ha (by simpa using haf), rfl⟩
  · rename_i hany
    have hfree : ∀ a ∈ args, a.field ≠ fields.length := by simpa using hany
    cases hmem : e.memberOf? f with
    | none =>
      refine .inr ⟨fun m hm => ?_, rfl⟩
      have := (wants_append_self.1 hm.1).2.1
      rw [hmem] at this
      cases this
    | some m =>
      dsimp only
      split
      · rename_i hopen
        rw [Bool.and_eq_true, Bool.not_eq_true', ← Bool.not_eq_true, isBound_eq_true_iff h, not_or,
          Option.any_eq_true] at hopen
        obtain ⟨hd, hfed, hnone⟩ := hopen
        refine .inl ⟨m, ⟨wants_append_self.2 ⟨hfree, hmem, hd, ?_⟩, ?_⟩, rfl⟩
        · exact fun a ha hm => hfed ⟨a, ha, hm⟩
        · exact (hbefore m).2 hnone
      · rename_i hopen
        refine .inr ⟨fun n hn => hopen ?_, rfl⟩
        obtain ⟨-, hn', ⟨d, hd, hw⟩, hfed⟩ := wants_append_self.1 hn.1
        obtain rfl : m = n := Option.some.inj (hmem ▸ hn')
        rw [Bool.and_eq_true, Bool.not_eq_true', ← Bool.not_eq_true, isBound_eq_true_iff h, not_or]
        exact ⟨by simp [hd, hw], fun ⟨a, ha, hm⟩ => hfed a ha hm, (hbefore m).1 hn.2⟩

theorem first_append_of_lt {f : Field} {i m : Nat} (hi : i < fields.length) :
    e.First (fields ++ [f]) args i m ↔ e.First fields args i m := by
  rw [First, First, wants_append_of_lt hi]
  exact and_congr_right fun _ => forall₂_congr fun j hj => not_congr (wants_append_of_lt (Nat.lt_trans hj hi))

theorem assigned_foldl (e : EntityDef α) (args : List ArgumentBinding) (fs : List Field) :
    e.Assigned fs args (fs.zipIdx.foldl (e.assign args) []) := by
  induction fs using List.reverseRecOn with
  | nil => exact ⟨.nil, fun b => ⟨fun h => (by cases h), fun h => absurd h.1.lt (Nat.not_lt_zero _)⟩⟩
  | append_singleton fs f ih =>
    rw [List.zipIdx_append, List.foldl_append, Nat.zero_add]
    have hlast : ∀ i m, e.First (fs ++ [f]) args i m → i < fs.length ∨ i = fs.length := by
      intro i m h
      have := h.1.lt
      rw [List.length_append, List.length_singleton] at this
      omega
    have hstep := assign_eq ih f
    rw [List.zipIdx_singleton, List.foldl_cons, List.foldl_nil]
    generalize fs.zipIdx.foldl (e.assign args) [] = bs at ih hstep ⊢
    have hbs : ∀ b ∈ bs, b.field < fs.length := fun b hb => ((ih.2 b).1 hb).1.lt
    rcases hstep with ⟨m, hm, hassign⟩ | ⟨hno, hassign⟩
    · rw [hassign]
      refine ⟨List.pairwise_append.2 ⟨ih.1, List.pairwise_singleton .., fun a ha b hb => ?_⟩, fun b => ?_⟩
      · rw [List.mem_singleton.1 hb]
        exact hbs a ha
      · rw [List.mem_append, List.mem_singleton]
        constructor
        · rintro (hb | rfl)
          · exact (first_append_of_lt (hbs b hb)).2 ((ih.2 b).1 hb)
          · exact hm
        · intro hb
          rcases hlast _ _ hb with hlt | heq
          · exact .inl ((ih.2 b).2 ((first_append_of_lt hlt).1 hb))
          · rw [heq] at hb
            refine .inr ?_
            obtain ⟨i, n⟩ := b
            obtain rfl : n = m := hb.1.eq hm.1
            rw [show i = fs.length from heq]
    · rw [hassign]
      refine ⟨ih.1, fun b => ⟨fun hb => (first_append_of_lt (hbs b hb)).2 ((ih.2 b).1 hb), fun hb => ?_⟩⟩
      rcases hlast _ _ hb with hlt | heq
      · exact (ih.2 b).2 ((first_append_of_lt hlt).1 hb)
      · rw [heq] at hb
        exact absurd hb (hno b.member)

/-- **The assignments are the first claims on the members.** -/
theorem mem_assignments_iff {b : MemberBinding} :
    b ∈ e.assignments fields args ↔ e.First fields args b.field b.member := (assigned_foldl e args fields).2 b

theorem assignments_sorted (e : EntityDef α) (fields : List Field) (args : List ArgumentBinding) :
    (e.assignments fields args).Pairwise (fun a b => a.field < b.field) := (assigned_foldl e args fields).1

end EntityDef

end RowBinding
