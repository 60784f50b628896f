import RowBinding.Proofs.Blame
import RowBinding.Proofs.NameResolution
/-!
# The constructor that is taken, and when there is none

A shape is refused for what it is or for what it binds.  It is not usable at all if two labels are the same name, or if
the target is a scalar and the shape has not one field.  Otherwise **the constructor that is taken is a satisfied one
with the most parameters, the first declared of several, and each of its arguments has the field that the parameter
finds**; nothing can be bound exactly when there is no satisfied constructor, or the one that is taken has no parameters
and no field resolves to a member that can be set (`TypeDef.analyzeRow_optimal`).
-/
namespace RowBinding

variable {α : Type}

namespace Field

/-- Two of the labels are the same name. -/
def Repeats (fields : List Field) : Prop :=
  ∃ (i j : Nat) (f g : Field), i < j ∧ fields[i]? = some f ∧ fields[j]? = some g ∧ Text.sameName f.label g.label = true

theorem distinct_iff_not_repeats {fields : List Field} : Distinct fields ↔ ¬ Repeats fields := by
  constructor
  · rintro h ⟨i, j, f, g, hij, hf, hg, hsame⟩
    exact Nat.ne_of_lt hij (h.eq_of_key hf hg (Text.sameName_iff.1 hsame))
  · intro h
    rw [Distinct, List.nodup_iff_pairwise_ne, List.pairwise_map, List.pairwise_iff_getElem]
    intro i j hi hj hij hkey
    exact h ⟨i, j, _, _, hij, List.getElem?_eq_getElem hi, List.getElem?_eq_getElem hj, Text.sameName_iff.2 hkey⟩

end Field

namespace EntityDef

variable {e : EntityDef α} {fields : List Field} {c d : ConstructorDef α} {i j : Nat} {args : List ArgumentBinding}

/-! ## Satisfied constructors -/

/-- Every parameter of the constructor finds a field. -/
def Satisfied (e : EntityDef α) (fields : List Field) (c : ConstructorDef α) : Prop :=
  ∀ param ∈ c.params, ∃ i, e.ParameterAt fields param.name i

theorem satisfied_iff : e.Satisfied fields c ↔ ∃ args, e.arguments? fields c = some args := by
  rw [← Option.isSome_iff_exists, arguments?_isSome_iff]
  refine forall₂_congr fun param _ => ?_
  rw [Option.isSome_iff_exists]
  exact exists_congr fun i => parameterField?_eq_some_iff.symm

/-- The bindings are those of a constructor's parameters, in order: each has the field that the parameter finds, and the
first member of the parameter's name. -/
def Binds (e : EntityDef α) (fields : List Field) (c : ConstructorDef α) (args : List ArgumentBinding) : Prop :=
  args.length = c.arity ∧ ∀ (k : Nat) (param : ParamDef) (a : ArgumentBinding), c.params[k]? = some param →
    args[k]? = some a → a.param = k ∧ e.ParameterAt fields param.name a.field ∧
      ∀ m, a.member = some m ↔ e.MemberAt param.name m

theorem binds_of_arguments? (h : e.arguments? fields c = some args) : e.Binds fields c args := by
  obtain ⟨hlen, hall⟩ := arguments?_eq_some_iff.1 h
  refine ⟨hlen.symm, fun k param a hparam ha => ?_⟩
  obtain ⟨hfield, hk, hmember⟩ := hall k param a hparam ha
  exact ⟨hk, parameterField?_eq_some_iff.1 hfield, fun m => hmember ▸ memberNamed?_eq_some_iff⟩

/-! ## The best one -/

/-- The constructor at a position is the one to take. -/
structure Selected (e : EntityDef α) (fields : List Field) (i : Nat) (c : ConstructorDef α) : Prop where
  declared : e.constructors[i]? = some c
  satisfied : e.Satisfied fields c
  /-- No satisfied constructor has more parameters. -/
  largest : ∀ d ∈ e.constructors, e.Satisfied fields d → d.arity ≤ c.arity
  /-- Every satisfied one declared before it has fewer. -/
  earliest : ∀ j d, j < i → e.constructors[j]? = some d → e.Satisfied fields d → d.arity < c.arity

/-- There is one at most. -/
theorem Selected.unique (hi : e.Selected fields i c) (hj : e.Selected fields j d) : i = j := by
  have hcd := hi.largest d (List.mem_of_getElem? hj.declared) hj.satisfied
  have hdc := hj.largest c (List.mem_of_getElem? hi.declared) hi.satisfied
  rcases Nat.lt_trichotomy i j with hlt | heq | hgt
  · have := hj.earliest i c hlt hi.declared hi.satisfied
    omega
  · exact heq
  · have := hi.earliest j d hgt hj.declared hj.satisfied
    omega

theorem selected_of_select? (h : e.select? fields = some (i, args)) :
    ∃ c, e.Selected fields i c ∧ e.arguments? fields c = some args := by
  have hbest := select?_best e fields
  rw [h] at hbest
  obtain ⟨c, hc, hargs, hmax⟩ := hbest
  have hsize : ∀ {d : ConstructorDef α} {ds : List ArgumentBinding}, e.arguments? fields d = some ds →
      ds.length = d.arity := fun hds => (arguments?_eq_some_iff.1 hds).1.symm
  refine ⟨c, ⟨hc, satisfied_iff.2 ⟨args, hargs⟩, fun d hd hsat => ?_, fun j d hj hd hsat => ?_⟩, hargs⟩
  · obtain ⟨ds, hds⟩ := satisfied_iff.1 hsat
    obtain ⟨j, hj⟩ := List.getElem?_of_mem hd
    rw [← hsize hds, ← hsize hargs]
    exact (hmax j d ds hj hds).1
  · obtain ⟨ds, hds⟩ := satisfied_iff.1 hsat
    rw [← hsize hds, ← hsize hargs]
    exact (hmax j d ds hd hds).2 hj

theorem select?_eq_none_iff : e.select? fields = none ↔ ∀ c ∈ e.constructors, ¬ e.Satisfied fields c := by
  constructor
  · intro h c hc hsat
    have hbest := select?_best e fields
    rw [h] at hbest
    obtain ⟨args, hargs⟩ := satisfied_iff.1 hsat
    rw [hbest c hc] at hargs
    cases hargs
  · intro hno
    cases hs : e.select? fields with
    | none => rfl
    | some found =>
      obtain ⟨c, hc, -⟩ := selected_of_select? hs
      exact absurd hc.satisfied (hno c (List.mem_of_getElem? hc.declared))

/-- **The search takes the best constructor**, if there is a satisfied one. -/
theorem Selected.select? (h : e.Selected fields i c) :
    ∃ args, e.select? fields = some (i, args) ∧ e.arguments? fields c = some args := by
  cases hs : e.select? fields with
  | none => exact absurd h.satisfied (select?_eq_none_iff.1 hs c (List.mem_of_getElem? h.declared))
  | some found =>
    obtain ⟨j, args⟩ := found
    obtain ⟨d, hd, hargs⟩ := selected_of_select? hs
    obtain rfl := h.unique hd
    obtain rfl : c = d := Option.some.inj (h.declared.symm.trans hd.declared)
    exact ⟨args, rfl, hargs⟩

/-! ## Entities that nothing is bound to -/

variable {p : Fingerprint}

/-- What an analysis comes to: there is no constructor, or it binds nothing, or there is a result. -/
theorem analyzeRow_cases (e : EntityDef α) (p : Fingerprint) :
    (e.select? p.fields = none ∧
      e.analyzeRow p = .error (p.bindingFailure (.noConstructor e.constructors.length e.name))) ∨
    (∃ i, e.select? p.fields = some (i, []) ∧ e.assignments p.fields [] = [] ∧
      e.analyzeRow p = .error (p.bindingFailure (.noMember e.name))) ∨
    ∃ i args a, e.select? p.fields = some (i, args) ∧ ¬ (args = [] ∧ e.assignments p.fields args = []) ∧
      e.analyzeRow p = .ok a := by
  cases hs : e.select? p.fields with
  | none => exact .inl ⟨rfl, by rw [analyzeRow, hs]⟩
  | some found =>
    obtain ⟨i, args⟩ := found
    by_cases hnothing : args = [] ∧ e.assignments p.fields args = []
    · obtain ⟨rfl, hassigned⟩ := hnothing
      refine .inr (.inl ⟨i, rfl, hassigned, ?_⟩)
      rw [analyzeRow, hs]
      dsimp only
      rw [hassigned]
      rfl
    · exact .inr (.inr ⟨i, args, _, rfl, hnothing, analyzeRow_eq_ok_iff.2 ⟨i, args, hs, hnothing, rfl⟩⟩)

theorem analyzeRow_eq_noConstructor_iff :
    e.analyzeRow p = .error (p.bindingFailure (.noConstructor e.constructors.length e.name)) ↔
      ∀ c ∈ e.constructors, ¬ e.Satisfied p.fields c := by
  rw [← select?_eq_none_iff]
  rcases e.analyzeRow_cases p with ⟨hs, hfailed⟩ | ⟨i, hs, -, hfailed⟩ | ⟨i, args, a, hs, -, hok⟩
  · exact iff_of_true hfailed hs
  · rw [hfailed, hs]
    exact iff_of_false (fun h => by cases h) (fun h => by cases h)
  · rw [hok, hs]
    exact iff_of_false (fun h => by cases h) (fun h => by cases h)

theorem assignments_nil_iff : e.assignments fields [] = [] ↔
    ∀ f ∈ fields, ∀ m d, e.Resolves f m → e.members[m]? = some d → d.isWritable = false := by
  constructor
  · intro hnil f hf m d hm hd
    rw [← Bool.not_eq_true]
    intro hw
    obtain ⟨i, hi⟩ := List.getElem?_of_mem hf
    have hwants : e.Wants fields [] i m :=
      ⟨f, hi, fun a ha => (by cases ha), memberOf?_eq_some_iff.2 hm, ⟨d, hd, hw⟩, fun a ha => (by cases ha)⟩
    obtain ⟨j, hj⟩ := exists_first_iff.2 ⟨i, hwants⟩
    have hassigned : (⟨j, m⟩ : MemberBinding) ∈ e.assignments fields [] := mem_assignments_iff.2 hj
    rw [hnil] at hassigned
    cases hassigned
  · intro hall
    rw [List.eq_nil_iff_forall_not_mem]
    intro b hb
    obtain ⟨f, hf, -, hm, ⟨d, hd, hw⟩, -⟩ := (mem_assignments_iff.1 hb).1
    rw [hall f (List.mem_of_getElem? hf) b.member d (memberOf?_eq_some_iff.1 hm) hd] at hw
    cases hw

theorem analyzeRow_eq_noMember_iff : e.analyzeRow p = .error (p.bindingFailure (.noMember e.name)) ↔
    ∃ i c, e.Selected p.fields i c ∧ c.params = [] ∧
      ∀ f ∈ p.fields, ∀ m d, e.Resolves f m → e.members[m]? = some d → d.isWritable = false := by
  have hempty : ∀ {c : ConstructorDef α} {args : List ArgumentBinding}, e.arguments? p.fields c = some args →
      (args = [] ↔ c.params = []) := by
    intro c args hargs
    rw [← List.length_eq_zero_iff, ← (arguments?_eq_some_iff.1 hargs).1, List.length_eq_zero_iff]
  constructor
  · intro h
    rcases e.analyzeRow_cases p with ⟨-, hfailed⟩ | ⟨i, hs, hassigned, -⟩ | ⟨i, args, a, -, -, hok⟩
    · cases h.symm.trans hfailed
    · obtain ⟨c, hc, hargs⟩ := selected_of_select? hs
      exact ⟨i, c, hc, (hempty hargs).1 rfl, assignments_nil_iff.1 hassigned⟩
    · cases h.symm.trans hok
  · rintro ⟨i, c, hc, hparams, hall⟩
    obtain ⟨args, hselect, hargs⟩ := hc.select?
    obtain rfl := (hempty hargs).2 hparams
    rcases e.analyzeRow_cases p with ⟨hs, -⟩ | ⟨-, -, -, hfailed⟩ | ⟨j, args, a, hs, hbinds, -⟩
    · cases hs.symm.trans hselect
    · exact hfailed
    · cases hs.symm.trans hselect
      exact absurd ⟨rfl, assignments_nil_iff.2 hall⟩ hbinds

theorem analyzeRow_eq_binding_iff : (∃ fault, e.analyzeRow p = .error (p.bindingFailure fault)) ↔
    (∀ c ∈ e.constructors, ¬ e.Satisfied p.fields c) ∨ ∃ i c, e.Selected p.fields i c ∧ c.params = [] ∧
      ∀ f ∈ p.fields, ∀ m d, e.Resolves f m → e.members[m]? = some d → d.isWritable = false := by
  rw [← analyzeRow_eq_noConstructor_iff, ← analyzeRow_eq_noMember_iff]
  constructor
  · rintro ⟨fault, h⟩
    rcases e.analyzeRow_cases p with ⟨-, hfailed⟩ | ⟨i, -, -, hfailed⟩ | ⟨i, args, a, -, -, hok⟩
    · exact .inl hfailed
    · exact .inr hfailed
    · cases h.symm.trans hok
  · rintro (h | h)
    · exact ⟨_, h⟩
    · exact ⟨_, h⟩

end EntityDef

/-! ## Types -/

namespace TypeDef

variable {p : Fingerprint}

theorem analyzeRow_of_repeats (d : TypeDef α) (h : Field.Repeats p.fields) :
    ∃ fault, d.analyzeRow p = .error (p.shapeMismatch fault) := by
  have hrefused : p.checkUnique ≠ .ok () := fun hok =>
    Field.distinct_iff_not_repeats.1 ((Fingerprint.checkUnique_iff p).1 hok) h
  unfold Fingerprint.checkUnique at hrefused
  split at hrefused
  · rename_i f hf
    exact ⟨.duplicateLabel f.label, by unfold analyzeRow Fingerprint.checkUnique; rw [hf]; rfl⟩
  · exact absurd rfl hrefused

/-- A shape whose labels differ is refused by what the target makes of it. -/
theorem analyzeRow_of_distinct (d : TypeDef α) (h : ¬ Field.Repeats p.fields) : d.analyzeRow p =
    match d with
    | .scalar _ =>
      if p.fields.length = 1 then .ok ⟨.scalar, none, [], []⟩
      else .error (p.shapeMismatch (.scalarFields p.fields.length))
    | .entity e => e.analyzeRow p := by
  unfold analyzeRow
  rw [(Fingerprint.checkUnique_iff p).2 (Field.distinct_iff_not_repeats.2 h)]
  rfl

theorem analyzeRow_eq_shapeMismatch_iff (d : TypeDef α) (p : Fingerprint) :
    (∃ fault, d.analyzeRow p = .error (p.shapeMismatch fault)) ↔
      Field.Repeats p.fields ∨ d.isScalar = true ∧ p.fields.length ≠ 1 := by
  by_cases hrep : Field.Repeats p.fields
  · exact iff_of_true (analyzeRow_of_repeats d hrep) (.inl hrep)
  · rw [analyzeRow_of_distinct d hrep, or_iff_right hrep]
    cases d with
    | scalar s => by_cases hlen : p.fields.length = 1 <;> simp [hlen, isScalar]
    | entity e =>
      simp only [isScalar, Bool.false_eq_true, false_and, iff_false, not_exists]
      intro fault h
      rcases e.analyzeRow_cases p with ⟨-, hfailed⟩ | ⟨i, -, -, hfailed⟩ | ⟨i, args, a, -, -, hok⟩
      · cases h.symm.trans hfailed
      · cases h.symm.trans hfailed
      · cases h.symm.trans hok

/-- **The constructor that is taken is the best one, and a failure tells exactly what is wrong.**  The shape is at fault
iff two labels are the same name, or a scalar does not get one field.  The binding is at fault iff the labels differ and
an entity has no satisfied constructor, or its best one has no parameters and no field resolves to a member that can be
set.  There are no other failures, and where there is none the best constructor is selected, each of its arguments bound
to the field that the parameter finds. -/
theorem analyzeRow_optimal (d : TypeDef α) (p : Fingerprint) :
    ((∃ fault, d.analyzeRow p = .error (p.shapeMismatch fault)) ↔
      Field.Repeats p.fields ∨ d.isScalar = true ∧ p.fields.length ≠ 1) ∧
    ((∃ fault, d.analyzeRow p = .error (p.bindingFailure fault)) ↔
      ¬ Field.Repeats p.fields ∧ ∃ e, d = .entity e ∧
        ((∀ c ∈ e.constructors, ¬ e.Satisfied p.fields c) ∨
          ∃ i c, e.Selected p.fields i c ∧ c.params = [] ∧
            ∀ f ∈ p.fields, ∀ m member, e.Resolves f m → e.members[m]? = some member → member.isWritable = false)) ∧
    (∀ failure, d.analyzeRow p = .error failure →
      (∃ fault, failure = p.shapeMismatch fault) ∨ ∃ fault, failure = p.bindingFailure fault) ∧
    ∀ e a, d = .entity e → d.analyzeRow p = .ok a →
      ∃ i c, a.selected = some i ∧ e.Selected p.fields i c ∧ e.Binds p.fields c a.arguments := by
  refine ⟨analyzeRow_eq_shapeMismatch_iff d p, ?_, fun failure => blames_of_analyzeRow, ?_⟩
  · by_cases hrep : Field.Repeats p.fields
    · refine iff_of_false ?_ fun h => h.1 hrep
      rintro ⟨fault, h⟩
      obtain ⟨other, hother⟩ := analyzeRow_of_repeats d hrep
      cases hother.symm.trans h
    · rw [analyzeRow_of_distinct d hrep, and_iff_right hrep]
      cases d with
      | scalar s =>
        refine iff_of_false ?_ fun ⟨e, he, _⟩ => by cases he
        rintro ⟨fault, h⟩
        dsimp only at h
        split at h <;> cases h
      | entity e =>
        rw [EntityDef.analyzeRow_eq_binding_iff]
        exact ⟨fun h => ⟨e, rfl, h⟩, fun ⟨_, he, h⟩ => by cases he; exact h⟩
  · rintro e a rfl ha
    obtain ⟨i, args, hs, -, rfl⟩ := EntityDef.analyzeRow_eq_ok_iff.1 (analyzeRow_entity.1 ha).2
    obtain ⟨c, hc, hargs⟩ := EntityDef.selected_of_select? hs
    exact ⟨i, c, rfl, hc, EntityDef.binds_of_arguments? hargs⟩

/-- Of two satisfied constructors with one parameter the first is taken, and one with two that lacks a field is not. -/
example :
    let b : Blueprint :=
      { name := "Account"
        members := [⟨"number", .base (.integer .int64), some "no", false⟩, ⟨"owner", .base .string, none, false⟩]
        constructors :=
          [⟨"empty", [], none⟩, ⟨"full", [("owner", .base .string), ("branch", .base .string)], none⟩,
            ⟨"numbered", [("Number", .base (.integer .int64))], none⟩, ⟨"owned", [("owner", .base .string)], none⟩] }
    (TypeDef.entity b.entity).analyzeRow
        (.rowToObject "Account" [.column "owner" .varchar, .column "NO" (.integer .int64)]) =
      .ok ⟨.constructorArgs, some 2, [⟨1, 0, some 0⟩], [⟨0, 1⟩]⟩ := by
  decide

end TypeDef

end RowBinding
