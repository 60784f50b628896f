import RowBinding.Proofs.Plans
import RowBinding.Entity.Blueprint
/-!
# The order of the columns

Everything that starts from a parameter looks for a name among all the columns, so it does not depend on their order.
An assignment starts from a column and takes its member if no column before it did.  **The order of the columns never
changes the constructor, the arguments and which members are assigned; it changes what a member gets exactly when two
columns claim one member** (`analyzeRow_columns`).
-/
namespace RowBinding

variable {α : Type}

/-- An argument by its column. -/
structure ArgumentColumn where
  column : Option Field
  param : Nat
  member : Option Nat
  deriving DecidableEq

def ArgumentBinding.columnIn (b : ArgumentBinding) (fields : List Field) : ArgumentColumn :=
  ⟨fields[b.field]?, b.param, b.member⟩

namespace ShapeAnalysis

/-- The arguments by their columns. -/
def argumentColumns (a : ShapeAnalysis) (fields : List Field) : List ArgumentColumn :=
  a.arguments.map (·.columnIn fields)

/-- The column that a member is assigned from. -/
def column? (a : ShapeAnalysis) (fields : List Field) (m : Nat) : Option Field :=
  (a.assignments.find? (·.member == m)).bind (fields[·.field]?)

/-- The analyses of two orders of the columns agree on the constructor, on every argument and on the members that are
assigned. -/
structure Alike (a : ShapeAnalysis) (fs : List Field) (b : ShapeAnalysis) (gs : List Field) : Prop where
  mode : b.mode = a.mode
  selected : b.selected = a.selected
  arguments : b.argumentColumns gs = a.argumentColumns fs
  assigned : ∀ m, (b.column? gs m).isSome = (a.column? fs m).isSome

end ShapeAnalysis

/-! ## Parameters -/

theorem isSome_getElem?_positionOf? {fields : List Field} {name : String} {i : Nat}
    (h : Field.positionOf? fields name = some i) : (fields[i]?).isSome = true := by
  obtain ⟨f, hf, -⟩ := Field.positionOf?_eq_some h
  rw [hf]
  rfl

theorem or_bind {β γ : Type} {a b : Option β} {f : β → Option γ} (h : ∀ x, a = some x → (f x).isSome = true) :
    (a.or b).bind f = (a.bind f).or (b.bind f) := by
  cases a with
  | none => rfl
  | some x =>
    obtain ⟨y, hy⟩ := Option.isSome_iff_exists.1 (h x rfl)
    simp [hy]

theorem MemberDef.fieldIn?_bind {m : MemberDef α} {fields : List Field} :
    (m.fieldIn? fields).bind (fields[·]?) =
      (m.mappedName.bind (Field.named? fields)).or (Field.named? fields m.name) := by
  rw [fieldIn?, or_bind, Option.bind_assoc, Field.positionOf?_bind]
  · exact congrArg (Option.or · _) (Option.bind_congr fun _ _ => Field.positionOf?_bind)
  · intro i h
    obtain ⟨name, -, h⟩ := Option.bind_eq_some_iff.1 h
    exact isSome_getElem?_positionOf? h

namespace EntityDef

variable {e : EntityDef α} {fields fs gs : List Field}

/-- The column that a parameter finds. -/
def parameterColumn? (e : EntityDef α) (fields : List Field) (name : String) : Option Field :=
  (e.parameterField? fields name).bind (fields[·]?)

theorem isSome_parameterColumn? (name : String) :
    (e.parameterColumn? fields name).isSome = (e.parameterField? fields name).isSome := by
  rw [parameterColumn?]
  cases h : e.parameterField? fields name with
  | none => rfl
  | some i =>
    rw [Option.bind_some, List.getElem?_eq_getElem (parameterField?_lt h)]
    rfl

theorem parameterColumn?_eq (name : String) :
    e.parameterColumn? fields name = ((e.memberNamed? name).bind fun i => e.members[i]?.bind fun m =>
      (m.mappedName.bind (Field.named? fields)).or (Field.named? fields m.name)).or (Field.named? fields name) := by
  rw [parameterColumn?, parameterField?, or_bind, Field.positionOf?_bind]
  · refine congrArg (Option.or · _) ?_
    rw [Option.bind_assoc]
    refine Option.bind_congr fun i _ => ?_
    rw [Option.bind_assoc]
    exact Option.bind_congr fun m _ => MemberDef.fieldIn?_bind
  · intro i h
    exact List.getElem?_eq_getElem (parameterField?_lt (Option.or_eq_some_iff.2 (.inl h))) ▸ rfl

/-- **Which column a parameter finds does not depend on the order of the columns.** -/
theorem parameterColumn?_perm (h : Field.Distinct fs) (p : gs.Perm fs) (name : String) :
    e.parameterColumn? gs name = e.parameterColumn? fs name := by
  have hnamed : Field.named? gs = Field.named? fs := funext fun n => Field.named?_perm h p n
  rw [parameterColumn?_eq, parameterColumn?_eq, hnamed]

theorem isSome_arguments?_perm (h : Field.Distinct fs) (p : gs.Perm fs) (c : ConstructorDef α) :
    (e.arguments? gs c).isSome = (e.arguments? fs c).isSome := by
  rw [Bool.eq_iff_iff, arguments?_isSome_iff, arguments?_isSome_iff]
  refine forall₂_congr fun param _ => ?_
  rw [← isSome_parameterColumn?, ← isSome_parameterColumn?, parameterColumn?_perm h p]

theorem argumentColumns_eq {c : ConstructorDef α} {args : List ArgumentBinding} (h : e.arguments? fields c = some args) :
    args.map (·.columnIn fields) =
      c.params.zipIdx.map fun pi => ⟨e.parameterColumn? fields pi.1.name, pi.2, e.memberNamed? pi.1.name⟩ := by
  obtain ⟨hlen, hall⟩ := arguments?_eq_some_iff.1 h
  refine List.ext_getElem (by simpa using hlen.symm) fun i hi hj => ?_
  rw [List.length_map] at hi
  have hc : i < c.params.length := hlen ▸ hi
  obtain ⟨hfield, hparam, hmember⟩ := hall i _ _ (List.getElem?_eq_getElem hc) (List.getElem?_eq_getElem hi)
  simp only [List.getElem_map, List.getElem_zipIdx, Nat.zero_add, ArgumentBinding.columnIn, parameterColumn?, hfield,
    hparam, hmember, Option.bind_some]

/-! ## Assignments -/

/-- The columns that claim a member: those that feed no argument and name the member, which must be writable and
without an argument itself. -/
def claimants (e : EntityDef α) (arguments : List ArgumentColumn) (fields : List Field) (m : Nat) : List Field :=
  fields.filter fun f => !arguments.any (·.column == some f) && e.memberOf? f == some m &&
    (e.members[m]?).any (·.isWritable) && !arguments.any (·.member == some m)

/-- No member is claimed twice. -/
def Uncontested (e : EntityDef α) (arguments : List ArgumentColumn) (fields : List Field) : Prop :=
  ∀ m, (e.claimants arguments fields m).length ≤ 1

theorem claimants_perm (e : EntityDef α) (arguments : List ArgumentColumn) (p : gs.Perm fs) (m : Nat) :
    (e.claimants arguments gs m).Perm (e.claimants arguments fs m) := p.filter _

theorem claimants_reverse (e : EntityDef α) (arguments : List ArgumentColumn) (fields : List Field) (m : Nat) :
    e.claimants arguments fields.reverse m = (e.claimants arguments fields m).reverse := List.filter_reverse

theorem memberOf?_named {f : Field} {m : Nat} (h : e.memberOf? f = some m) : ∃ d, e.members[m]? = some d ∧
    ((∃ name, d.mappedName = some name ∧ f.isNamed name = true) ∨ f.isNamed d.name = true) := by
  rcases Option.or_eq_some_iff.1 h with h | ⟨-, h⟩
  · obtain ⟨hm, hn, -⟩ := List.findIdx?_eq_some_iff_getElem.1 h
    exact ⟨_, List.getElem?_eq_getElem hm, .inl ((Option.any_eq_true _ _).1 hn)⟩
  · obtain ⟨hm, hn, -⟩ := List.findIdx?_eq_some_iff_getElem.1 h
    exact ⟨_, List.getElem?_eq_getElem hm, .inr hn⟩

theorem wants_iff (h : Field.Distinct fields) {args : List ArgumentBinding} {i m : Nat} {f : Field}
    (hf : fields[i]? = some f) : e.Wants fields args i m ↔
      f ∈ e.claimants (args.map (·.columnIn fields)) fields m := by
  have hfree : (∀ a ∈ args, a.field ≠ i) ↔ ∀ a ∈ args, fields[a.field]? ≠ some f := by
    refine forall₂_congr fun a _ => not_congr ⟨fun hi => hi ▸ hf, fun ha => h.eq_of_key ha hf rfl⟩
  have hopen : e.Open args m ↔ (e.members[m]?).any (·.isWritable) = true ∧ ∀ a ∈ args, a.member ≠ some m := by
    rw [Open, Option.any_eq_true]
  rw [claimants, List.mem_filter, Wants]
  simp only [Bool.and_eq_true, Bool.not_eq_true', List.any_eq_false, List.forall_mem_map, beq_iff_eq, and_assoc,
    ArgumentBinding.columnIn]
  rw [← hfree]
  constructor
  · rintro ⟨g, hg, hno, hmem, ho⟩
    obtain rfl : f = g := Option.some.inj (hf ▸ hg)
    exact ⟨List.mem_of_getElem? hf, hno, hmem, hopen.1 ho⟩
  · rintro ⟨-, hno, hmem, ho⟩
    exact ⟨f, hf, hno, hmem, hopen.2 ho⟩

/-- **A member is assigned from the first column that claims it.** -/
theorem find?_assignments (h : Field.Distinct fields) (args : List ArgumentBinding) (m : Nat) :
    ((e.assignments fields args).find? (·.member == m)).bind (fields[·.field]?) =
      (e.claimants (args.map (·.columnIn fields)) fields m).head? := by
  cases hfind : (e.assignments fields args).find? (·.member == m) with
  | none =>
    have hno : ∀ i, ¬ e.Wants fields args i m := by
      intro i hi
      obtain ⟨j, hj⟩ := exists_first_iff.2 ⟨i, hi⟩
      have := List.find?_eq_none.1 hfind ⟨j, m⟩ (mem_assignments_iff.2 hj)
      simp at this
    rw [Option.bind_none, eq_comm, List.head?_eq_none_iff, List.eq_nil_iff_forall_not_mem]
    intro f hf
    obtain ⟨i, hi⟩ := List.getElem?_of_mem (List.mem_of_mem_filter hf)
    exact hno i ((wants_iff h hi).2 hf)
  | some b =>
    have hb : b.member = m := by simpa using List.find?_some hfind
    have hfirst := mem_assignments_iff.1 (List.mem_of_find?_eq_some hfind)
    rw [hb] at hfirst
    have hlt := hfirst.1.lt
    have hf := List.getElem?_eq_getElem hlt
    rw [Option.bind_some, hf, eq_comm]
    have hclaim := (wants_iff h hf).1 hfirst.1
    have hbefore : ∀ j (hj : j < b.field), fields[j] ∉
        e.claimants (args.map (·.columnIn fields)) fields m :=
      fun j hj hc => hfirst.2 j hj ((wants_iff h (List.getElem?_eq_getElem (Nat.lt_trans hj hlt))).2 hc)
    rw [claimants] at hclaim hbefore ⊢
    rw [List.head?_filter, List.find?_eq_some_iff_getElem]
    refine ⟨(List.mem_filter.1 hclaim).2, b.field, hlt, rfl, fun j hj => ?_⟩
    rw [Bool.not_eq_true', ← Bool.not_eq_true]
    exact fun hp => hbefore j hj (List.mem_filter.2 ⟨List.getElem_mem _, hp⟩)

theorem assignments_eq_nil_iff (h : Field.Distinct fields) (args : List ArgumentBinding) :
    e.assignments fields args = [] ↔
      ∀ m, e.claimants (args.map (·.columnIn fields)) fields m = [] := by
  constructor
  · intro hnil m
    rw [← List.head?_eq_none_iff, ← find?_assignments h, hnil]
    rfl
  · intro hall
    rw [List.eq_nil_iff_forall_not_mem]
    intro b hb
    have hfirst := (mem_assignments_iff.1 hb).1
    have := (wants_iff h (List.getElem?_eq_getElem hfirst.lt)).1 hfirst
    rw [hall] at this
    cases this

/-! ## Two orders -/

/-- **Every order of the columns selects the same constructor and feeds each parameter from the same column.** -/
theorem select?_perm (h : Field.Distinct fs) (p : gs.Perm fs) {i : Nat} {as : List ArgumentBinding}
    (hs : e.select? fs = some (i, as)) : ∃ bs, e.select? gs = some (i, bs) ∧
      bs.map (·.columnIn gs) = as.map (·.columnIn fs) := by
  have hsame : ∀ c ∈ e.constructors, (e.arguments? fs c).isSome = (e.arguments? gs c).isSome :=
    fun c _ => (isSome_arguments?_perm h p c).symm
  obtain ⟨c, hc, has⟩ := select?_eq_some hs
  cases hg : e.select? gs with
  | none =>
    have hbest := select?_best e gs
    rw [hg] at hbest
    have := hsame c (List.mem_of_getElem? hc)
    rw [hbest c (List.mem_of_getElem? hc), has] at this
    cases this
  | some best =>
    obtain ⟨j, bs⟩ := best
    have hi := select?_best e fs
    have hj := select?_best e gs
    rw [hs] at hi
    rw [hg] at hj
    obtain rfl := Best.unique hsame hi hj
    obtain ⟨d, hd, hbs⟩ := select?_eq_some hg
    obtain rfl : c = d := Option.some.inj (hc ▸ hd)
    refine ⟨bs, rfl, ?_⟩
    rw [argumentColumns_eq hbs, argumentColumns_eq has]
    exact List.map_congr_left fun pi _ => by rw [parameterColumn?_perm h p]

end EntityDef

namespace ShapeAnalysis

variable {e : EntityDef α} {p q : Fingerprint} {a b : ShapeAnalysis}

theorem column?_eq (h : (TypeDef.entity e).analyzeRow p = .ok a) (m : Nat) :
    a.column? p.fields m = (e.claimants (a.argumentColumns p.fields) p.fields m).head? := by
  obtain ⟨hd, h⟩ := TypeDef.analyzeRow_entity.1 h
  obtain ⟨i, args, -, -, rfl⟩ := EntityDef.analyzeRow_eq_ok_iff.1 h
  exact EntityDef.find?_assignments hd args m

theorem exists_alike (hp : q.fields.Perm p.fields) (h : (TypeDef.entity e).analyzeRow p = .ok a) :
    ∃ b, (TypeDef.entity e).analyzeRow q = .ok b ∧ a.Alike p.fields b q.fields := by
  obtain ⟨hd, ha⟩ := TypeDef.analyzeRow_entity.1 h
  obtain ⟨i, as, hs, hne, rfl⟩ := EntityDef.analyzeRow_eq_ok_iff.1 ha
  obtain ⟨bs, hg, hcolumns⟩ := EntityDef.select?_perm hd hp hs
  have hlen : bs.length = as.length := by simpa using congrArg List.length hcolumns
  have hnil : bs = [] ↔ as = [] := by rw [← List.length_eq_zero_iff, hlen, List.length_eq_zero_iff]
  have hclaims : ∀ m, (e.claimants (bs.map (·.columnIn q.fields)) q.fields m).Perm
      (e.claimants (as.map (·.columnIn p.fields)) p.fields m) := by
    intro m
    rw [hcolumns]
    exact EntityDef.claimants_perm e _ hp m
  have hnone : ∀ m, e.claimants (bs.map (·.columnIn q.fields)) q.fields m = [] ↔
      e.claimants (as.map (·.columnIn p.fields)) p.fields m = [] := by
    intro m
    rw [← List.length_eq_zero_iff, (hclaims m).length_eq, List.length_eq_zero_iff]
  have hempty : e.assignments q.fields bs = [] ↔ e.assignments p.fields as = [] := by
    rw [EntityDef.assignments_eq_nil_iff (hd.perm hp), EntityDef.assignments_eq_nil_iff hd]
    exact forall_congr' hnone
  have hb : (TypeDef.entity e).analyzeRow q = .ok
      ⟨if bs.isEmpty then .memberInit else .constructorArgs, some i, bs, e.assignments q.fields bs⟩ := by
    refine TypeDef.analyzeRow_entity.2 ⟨hd.perm hp, EntityDef.analyzeRow_eq_ok_iff.2 ⟨i, bs, hg, ?_, rfl⟩⟩
    rwa [hnil, hempty]
  refine ⟨_, hb, ?_, rfl, hcolumns, fun m => ?_⟩
  · simp only [List.isEmpty_iff, hnil]
  · rw [column?_eq hb, column?_eq h, Bool.eq_iff_iff, List.isSome_head?, List.isSome_head?]
    exact not_congr (hnone m)

/-- Where a member is claimed once at most, it gets the same column in every order. -/
theorem column?_perm (hu : e.Uncontested (a.argumentColumns p.fields) p.fields) (hp : q.fields.Perm p.fields)
    (ha : (TypeDef.entity e).analyzeRow p = .ok a) (hb : (TypeDef.entity e).analyzeRow q = .ok b)
    (hab : a.Alike p.fields b q.fields) (m : Nat) : b.column? q.fields m = a.column? p.fields m := by
  rw [column?_eq hb, column?_eq ha, hab.arguments]
  have hclaims := EntityDef.claimants_perm e (a.argumentColumns p.fields) hp m
  have hle := hu m
  generalize e.claimants (a.argumentColumns p.fields) p.fields m = claimants at hclaims hle
  match claimants with
  | [] => rw [hclaims.eq_nil]
  | [f] => rw [List.perm_singleton.1 hclaims]
  | f :: g :: rest => exact absurd (Nat.le_of_succ_le_succ hle) (Nat.not_succ_le_zero _)

/-- Where a member is claimed twice, the reverse order gives it another column. -/
theorem column?_reverse (ha : (TypeDef.entity e).analyzeRow p = .ok a)
    (hall : ∀ q b, q.fields.Perm p.fields → (TypeDef.entity e).analyzeRow q = .ok b →
      ∀ m, b.column? q.fields m = a.column? p.fields m) : e.Uncontested (a.argumentColumns p.fields) p.fields := by
  intro m
  have hp : ({ p with fields := p.fields.reverse } : Fingerprint).fields.Perm p.fields := List.reverse_perm p.fields
  obtain ⟨b, hb, hab⟩ := exists_alike hp ha
  have hsame := hall _ b hp hb m
  rw [column?_eq hb, column?_eq ha, hab.arguments, EntityDef.claimants_reverse, List.head?_reverse] at hsame
  have hnodup : (e.claimants (a.argumentColumns p.fields) p.fields m).Nodup :=
    (TypeDef.analyzeRow_entity.1 ha).1.nodup.filter _
  -- a list without repetitions whose first and last elements agree has one element at most
  generalize e.claimants (a.argumentColumns p.fields) p.fields m = claimants at hsame hnodup ⊢
  match claimants with
  | [] => exact Nat.zero_le 1
  | [f] => exact Nat.le_refl 1
  | f :: g :: rest =>
    rw [List.head?_cons, List.getLast?_cons_cons] at hsame
    exact absurd (List.mem_of_getLast? hsame) (List.nodup_cons.1 hnodup).1

/-- **The order of the columns does not decide whether a shape can be read, which constructor builds the object, which
column feeds each parameter and which members are assigned.  It decides what a member gets exactly when two columns that
feed no parameter claim the member.** -/
theorem analyzeRow_columns (e : EntityDef α) (p : Fingerprint) :
    (∀ q : Fingerprint, q.fields.Perm p.fields →
      ((∃ b, (TypeDef.entity e).analyzeRow q = .ok b) ↔ ∃ a, (TypeDef.entity e).analyzeRow p = .ok a) ∧
      ∀ a b, (TypeDef.entity e).analyzeRow p = .ok a → (TypeDef.entity e).analyzeRow q = .ok b →
        a.Alike p.fields b q.fields) ∧
    ∀ a, (TypeDef.entity e).analyzeRow p = .ok a →
      ((∀ q b, q.fields.Perm p.fields → (TypeDef.entity e).analyzeRow q = .ok b →
          ∀ m, b.column? q.fields m = a.column? p.fields m) ↔
        e.Uncontested (a.argumentColumns p.fields) p.fields) := by
  refine ⟨fun q hp => ⟨⟨?_, ?_⟩, fun a b ha hb => ?_⟩, fun a ha => ⟨column?_reverse ha, fun hu q b hp hb m => ?_⟩⟩
  · rintro ⟨b, hb⟩
    obtain ⟨a, ha, -⟩ := exists_alike hp.symm hb
    exact ⟨a, ha⟩
  · rintro ⟨a, ha⟩
    obtain ⟨b, hb, -⟩ := exists_alike hp ha
    exact ⟨b, hb⟩
  · obtain ⟨b', hb', hab⟩ := exists_alike hp ha
    rwa [Except.ok.inj (hb.symm.trans hb')]
  · obtain ⟨b', hb', hab⟩ := exists_alike hp ha
    obtain rfl := Except.ok.inj (hb.symm.trans hb')
    exact column?_perm hu hp ha hb hab m

/-! ## A column by each name -/

/-- An entity with one member, which has another name in the store. -/
def renamed : Blueprint where
  name := "Renamed"
  members := [⟨"a", .base (.integer .int64), some "x", false⟩]
  constructors := [⟨"new", [], none⟩]

/-- A column of the store name. -/
def byStoreName : Field := .column "x" (.integer .int64)

/-- A column of the member's own name. -/
def byOwnName : Field := .column "a" (.integer .int64)

/-- The member gets the column that stands first, be it the one of the store name or the other one. -/
theorem column?_renamed :
    ∃ a b, (TypeDef.entity renamed.entity).analyzeRow (.rowToObject "Renamed" [byStoreName, byOwnName]) = .ok a ∧
      (TypeDef.entity renamed.entity).analyzeRow (.rowToObject "Renamed" [byOwnName, byStoreName]) = .ok b ∧
      Field.Distinct [byStoreName, byOwnName] ∧ [byOwnName, byStoreName].Perm [byStoreName, byOwnName] ∧
      a.column? [byStoreName, byOwnName] 0 = some byStoreName ∧
      b.column? [byOwnName, byStoreName] 0 = some byOwnName :=
  ⟨⟨.memberInit, some 0, [], [⟨0, 0⟩]⟩, ⟨.memberInit, some 0, [], [⟨0, 0⟩]⟩, by decide, by decide, by decide, by decide,
    by decide, by decide⟩

theorem order_matters_renamed : ¬ ∀ q b, q.fields.Perm [byStoreName, byOwnName] →
    (TypeDef.entity renamed.entity).analyzeRow q = .ok b →
      ∀ m, b.column? q.fields m = if m = 0 then some byStoreName else none := by
  intro hall
  have h := (analyzeRow_columns renamed.entity (.rowToObject "Renamed" [byStoreName, byOwnName])).2
    ⟨.memberInit, some 0, [], [⟨0, 0⟩]⟩ (by decide)
  have hcolumn : ∀ m, (⟨.memberInit, some 0, [], [⟨0, 0⟩]⟩ : ShapeAnalysis).column? [byStoreName, byOwnName] m =
      if m = 0 then some byStoreName else none := by
    intro m
    cases m with
    | zero => decide
    | succ m => simp [column?]
  have huncontested := h.1 (fun q b hp hb m => (hall q b hp hb m).trans (hcolumn m).symm)
  exact absurd (huncontested 0) (by decide)

end ShapeAnalysis

end RowBinding
