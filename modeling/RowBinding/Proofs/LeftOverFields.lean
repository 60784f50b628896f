import RowBinding.Proofs.BestConstructor
import RowBinding.Proofs.Sources
/-!
# The fields that are left over

A field that feeds no argument is offered to the member that it resolves to.  **A member that can be set and that no
argument feeds gets the first field that is offered to it, and nothing else is assigned**
(`ShapeAnalysis.assignments_complete`): a field is lost only where an earlier one took its place, and none is used twice.
-/
namespace RowBinding

variable {α β : Type}

/-- A filter that only one element of a list without repetitions passes. -/
theorem filter_eq_singleton {l : List β} (hl : l.Nodup) {q : β → Bool} {b : β} (hb : b ∈ l) (hq : q b = true)
    (hone : ∀ c ∈ l, q c = true → c = b) : l.filter q = [b] := by
  refine List.perm_singleton.1 ((List.perm_ext_iff_of_nodup (hl.filter q) (List.nodup_singleton b)).2 fun c => ?_)
  rw [List.mem_filter, List.mem_singleton]
  exact ⟨fun ⟨hc, hqc⟩ => hone c hc hqc, fun h => h ▸ ⟨hb, hq⟩⟩

/-- The arguments of a constructor feed the first members of its parameters' names. -/
theorem EntityDef.Binds.feeds_iff {e : EntityDef α} {fields : List Field} {c : ConstructorDef α}
    {args : List ArgumentBinding} (h : e.Binds fields c args) {m : Nat} :
    (∃ x ∈ args, x.member = some m) ↔ ∃ param ∈ c.params, e.MemberAt param.name m := by
  obtain ⟨hlen, hall⟩ := h
  constructor
  · rintro ⟨x, hx, hm⟩
    obtain ⟨k, hk⟩ := List.getElem?_of_mem hx
    have hlt : k < c.params.length := Nat.lt_of_lt_of_eq (List.getElem?_eq_some_iff.1 hk).1 hlen
    exact ⟨c.params[k], List.getElem_mem hlt, ((hall k _ x (List.getElem?_eq_getElem hlt) hk).2.2 m).1 hm⟩
  · rintro ⟨param, hparam, hm⟩
    obtain ⟨k, hk⟩ := List.getElem?_of_mem hparam
    have hlt : k < args.length := Nat.lt_of_lt_of_eq (List.getElem?_eq_some_iff.1 hk).1 hlen.symm
    exact ⟨args[k], List.getElem_mem hlt, ((hall k param _ hk (List.getElem?_eq_getElem hlt)).2.2 m).2 hm⟩

namespace ShapeAnalysis

variable {e : EntityDef α} {p : Fingerprint} {a : ShapeAnalysis} {fields : List Field}

/-- An argument feeds the member. -/
def Feeds (a : ShapeAnalysis) (m : Nat) : Prop := ∃ x ∈ a.arguments, x.member = some m

/-- The field at a position feeds no argument and resolves to the member. -/
def Offers (a : ShapeAnalysis) (e : EntityDef α) (fields : List Field) (i m : Nat) : Prop :=
  (∀ x ∈ a.arguments, x.field ≠ i) ∧ ∃ f, fields[i]? = some f ∧ e.Resolves f m

/-- Of the fields that are offered to the member it is the first. -/
def OffersFirst (a : ShapeAnalysis) (e : EntityDef α) (fields : List Field) (i m : Nat) : Prop :=
  a.Offers e fields i m ∧ ∀ j, j < i → ¬ a.Offers e fields j m

theorem wants_iff_offers {i m : Nat} :
    e.Wants fields a.arguments i m ↔ a.Offers e fields i m ∧ e.Open a.arguments m := by
  constructor
  · rintro ⟨f, hf, hfree, hm, hopen⟩
    exact ⟨⟨hfree, f, hf, EntityDef.memberOf?_eq_some_iff.1 hm⟩, hopen⟩
  · rintro ⟨⟨hfree, f, hf, hm⟩, hopen⟩
    exact ⟨f, hf, hfree, EntityDef.memberOf?_eq_some_iff.2 hm, hopen⟩

theorem first_iff_offersFirst {i m : Nat} :
    e.First fields a.arguments i m ↔ a.OffersFirst e fields i m ∧ e.Open a.arguments m := by
  simp only [EntityDef.First, OffersFirst, wants_iff_offers]
  constructor
  · rintro ⟨⟨hoffers, hopen⟩, hbefore⟩
    exact ⟨⟨hoffers, fun j hj h => hbefore j hj ⟨h, hopen⟩⟩, hopen⟩
  · rintro ⟨⟨hoffers, hbefore⟩, hopen⟩
    exact ⟨⟨hoffers, hopen⟩, fun j hj h => hbefore j hj h.1⟩

/-- The assignments of an analysis are the first offers to open members. -/
theorem mem_assignments_iff_offersFirst (h : a.assignments = e.assignments fields a.arguments) {b : MemberBinding} :
    b ∈ a.assignments ↔ a.OffersFirst e fields b.field b.member ∧ e.Open a.arguments b.member := by
  rw [h, EntityDef.mem_assignments_iff, first_iff_offersFirst]

/-- A member that is open and offered some field is assigned once. -/
theorem assigned_once (h : a.assignments = e.assignments fields a.arguments) {m : Nat} (hopen : e.Open a.arguments m)
    (hoffered : ∃ i, a.Offers e fields i m) :
    ∃ i, a.OffersFirst e fields i m ∧ a.assignments.filter (·.member == m) = [⟨i, m⟩] := by
  obtain ⟨j, hj⟩ := hoffered
  obtain ⟨i, hi⟩ := EntityDef.exists_first_iff.2 ⟨j, wants_iff_offers.2 ⟨hj, hopen⟩⟩
  have hfirst := (first_iff_offersFirst.1 hi).1
  have hnodup : a.assignments.Nodup := h ▸ List.Nodup.of_map _ (Plan.nodup_assignments e fields a.arguments)
  refine ⟨i, hfirst, filter_eq_singleton hnodup ((mem_assignments_iff_offersFirst h).2 ⟨hfirst, hopen⟩)
    (beq_self_eq_true m) fun b hb hm => ?_⟩
  obtain ⟨k, n⟩ := b
  obtain rfl : n = m := beq_iff_eq.1 hm
  obtain rfl : i = k := hi.eq (first_iff_offersFirst.2 ((mem_assignments_iff_offersFirst h).1 hb))
  rfl

/-- **No field is lost that could be bound.**  Where a row of a shape can be read, the members that arguments feed are the
first of the names of the selected constructor's parameters.  A member that can be set and that no argument feeds is
assigned once if some field is offered to it, from the first such field; every assignment is one of these, they stand in
the order of their fields, and none takes the field of an argument.  The object is built from arguments iff there are
any. -/
theorem assignments_complete (e : EntityDef α) (p : Fingerprint) (a : ShapeAnalysis)
    (h : (TypeDef.entity e).analyzeRow p = .ok a) :
    (∃ c, a.selected.bind (e.constructors[·]?) = some c ∧
      ∀ m, a.Feeds m ↔ ∃ param ∈ c.params, e.MemberAt param.name m) ∧
    (∀ m member, e.members[m]? = some member → member.isWritable = true → ¬ a.Feeds m →
      (∃ i, a.Offers e p.fields i m) →
      ∃ i, a.OffersFirst e p.fields i m ∧ a.assignments.filter (·.member == m) = [⟨i, m⟩]) ∧
    (∀ b ∈ a.assignments, a.OffersFirst e p.fields b.field b.member ∧ ¬ a.Feeds b.member ∧
      ∃ member, e.members[b.member]? = some member ∧ member.isWritable = true) ∧
    a.assignments.Pairwise (fun b b' => b.field < b'.field) ∧
    (∀ x ∈ a.arguments, ∀ b ∈ a.assignments, x.field ≠ b.field) ∧
    (a.mode = .constructorArgs ↔ a.arguments ≠ []) := by
  obtain ⟨i, args, hs, -, rfl⟩ := EntityDef.analyzeRow_eq_ok_iff.1 (TypeDef.analyzeRow_entity.1 h).2
  obtain ⟨c, hc, hargs⟩ := EntityDef.selected_of_select? hs
  refine ⟨⟨c, hc.declared, fun m => (EntityDef.binds_of_arguments? hargs).feeds_iff⟩, ?_, ?_,
    EntityDef.assignments_sorted e p.fields args, fun x hx b hb => Plan.field_ne_of_assignment hx hb, ?_⟩
  · intro m member hmember hwritable hfed hoffered
    exact assigned_once rfl ⟨⟨member, hmember, hwritable⟩, fun x hx hm => hfed ⟨x, hx, hm⟩⟩ hoffered
  · intro b hb
    obtain ⟨hfirst, hwritable, hfree⟩ := (mem_assignments_iff_offersFirst rfl).1 hb
    exact ⟨hfirst, fun ⟨x, hx, hm⟩ => hfree x hx hm, hwritable⟩
  · cases args <;> simp

/-! ## Names that overlap -/

/-- An entity with a member of another name in the store, a member of that very name that cannot be set, and a member that
the constructor takes. -/
def overlaid : Blueprint where
  name := "Overlaid"
  members :=
    [⟨"a", .base (.integer .int64), some "x", false⟩, ⟨"x", .base (.integer .int64), none, true⟩,
      ⟨"b", .base (.integer .int64), none, false⟩, ⟨"c", .base (.integer .int64), none, false⟩]
  constructors := [⟨"new", [("C", .base (.integer .int64))], none⟩]

/-- The columns of a row for it. -/
def overlaidShape : Fingerprint :=
  .rowToObject "Overlaid" (["c", "A", "X", "b", "other"].map (Field.column · (.integer .int64)))

/-- The member of the other name gets the first column that resolves to it, which is not the one of that name, and the
member that the constructor takes is not assigned. -/
theorem assignments_complete_overlaid : ∃ a, (TypeDef.entity overlaid.entity).analyzeRow overlaidShape = .ok a ∧
    a.OffersFirst overlaid.entity overlaidShape.fields 1 0 ∧ a.assignments.filter (·.member == 0) = [⟨1, 0⟩] ∧
    a.Feeds 3 ∧ a.mode = .constructorArgs := by
  have ha : (TypeDef.entity overlaid.entity).analyzeRow overlaidShape =
      .ok ⟨.constructorArgs, some 0, [⟨0, 0, some 3⟩], [⟨1, 0⟩, ⟨3, 2⟩]⟩ := by decide
  obtain ⟨-, honce, -, -, -, hmode⟩ := assignments_complete overlaid.entity overlaidShape _ ha
  have hresolves : overlaid.entity.Resolves (.column "A" (.integer .int64)) 0 :=
    EntityDef.memberOf?_eq_some_iff.1 (by decide)
  obtain ⟨i, hfirst, hfilter⟩ := honce 0 _ rfl rfl (by simp [Feeds]) ⟨1, by simp, _, rfl, hresolves⟩
  obtain rfl : 1 = i := by simpa using hfilter
  exact ⟨_, ha, hfirst, hfilter, ⟨_, List.mem_cons_self, rfl⟩, hmode.2 (by simp)⟩

end ShapeAnalysis

end RowBinding
