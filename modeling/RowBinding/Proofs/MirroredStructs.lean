import RowBinding.Proofs.FieldArguments
/-!
# Declarations mirror structs

The declaration of a struct is to have the fields and the constructors that its source has, in the order in which they
are written.  **A struct is accepted exactly if there is a declaration that mirrors it, and that is the one it is accepted
as** (`Derive.declarationOf_eq_ok_iff_mirrors`).  The positions that a constructor keeps are those of the fields it
names, so a constructor that names no field is refused (`Derive.declarationOf_unknownParameter`).
-/
namespace RowBinding

namespace StructField

variable {τ : Type} {f g : StructField τ} {args : List Derive.FieldArgument}

/-- Beside its name and its type, the arguments on a field say all there is. -/
theorem Shows.unique (hf : f.Shows args) (hg : g.Shows args) (hname : f.name = g.name) (htype : f.type = g.type) :
    f = g := by
  have hread : f.readOnly = g.readOnly := Bool.eq_iff_iff.2 (hf.readOnly.trans hg.readOnly.symm)
  have hskip : f.skipped = g.skipped := Bool.eq_iff_iff.2 (hf.skipped.trans hg.skipped.symm)
  have hmapped : f.mappedName = g.mappedName := hf.mappedName.trans hg.mappedName.symm
  cases f
  cases g
  cases hname
  cases htype
  cases hread
  cases hskip
  cases hmapped
  rfl

end StructField

namespace Derive

variable {τ : Type}

/-! ## Fields -/

/-- The field is as its source says: what it is called, its type, and what the arguments on it come to. -/
structure FieldMirrors (source : FieldSource) (f : StructField (List Token)) : Prop where
  name : f.name = source.name
  type : f.type = Canonical.ofType source.type
  noneBare : NoneBare source.attributes
  arguments : ∃ lists, List.Forall₂ FieldArgument.ReadAs (mappedLists source.attributes) lists ∧ f.Shows lists.flatten

theorem fieldOf_eq_ok_iff {source : FieldSource} {f : StructField (List Token)} :
    fieldOf source = .ok f ↔ FieldMirrors source f := by
  have hplain := StructField.plain_shows source.name (Canonical.ofType source.type)
  have hframe := StructField.foldl_apply_frame (StructField.plain source.name (Canonical.ofType source.type))
  rw [fieldOf, foldlM_applyToField_eq_ok_iff]
  constructor
  · rintro ⟨hbare, lists, hlists, rfl⟩
    exact ⟨(hframe _).1, (hframe _).2, hbare, lists, hlists, hplain.foldl _⟩
  · rintro ⟨hname, htype, hbare, lists, hlists, hshows⟩
    have hsame := hshows.unique (hplain.foldl _) (hname.trans (hframe _).1.symm) (htype.trans (hframe _).2.symm)
    exact ⟨hbare, lists, hlists, hsame⟩

/-! ## Constructors -/

/-- At this position stands the first field of the name. -/
def FieldAt (fields : List (StructField τ)) (name : String) (i : Nat) : Prop :=
  ∃ f, fields[i]? = some f ∧ f.name = name ∧ ∀ j < i, ∀ g, fields[j]? = some g → g.name ≠ name

/-- The constructor is what these names say: the function comes first, and each name after it is that of the field at
the position of the parameter. -/
def Calls (fields : List (StructField τ)) (names : List String) (c : StructConstructor) : Prop :=
  ∃ params, names = c.name :: params ∧ List.Forall₂ (FieldAt fields) params c.params

variable {fields : List (StructField τ)} {names : List String} {c : StructConstructor}

theorem paramPosition_eq_ok_iff {name : String} {i : Nat} :
    paramPosition fields name = .ok i ↔ FieldAt fields name i := by
  have hfound : paramPosition fields name = .ok i ↔ fields.findIdx? (·.name == name) = some i := by
    unfold paramPosition
    cases fields.findIdx? (·.name == name) <;> simp
  rw [hfound, List.findIdx?_eq_some_iff_getElem]
  constructor
  · rintro ⟨hi, hname, hbefore⟩
    refine ⟨fields[i], List.getElem?_eq_getElem hi, by simpa using hname, fun j hj g hg => ?_⟩
    obtain ⟨hlt, rfl⟩ := List.getElem?_eq_some_iff.1 hg
    simpa using hbefore j hj
  · rintro ⟨f, hf, hname, hbefore⟩
    obtain ⟨hi, rfl⟩ := List.getElem?_eq_some_iff.1 hf
    refine ⟨hi, by simpa using hname, fun j hj => ?_⟩
    simpa using hbefore j hj _ (List.getElem?_eq_getElem (Nat.lt_trans hj hi))

theorem constructorOf_eq_ok_iff : constructorOf fields names = .ok c ↔ Calls fields names c := by
  cases names with
  | nil =>
    refine iff_of_false (fun h => by cases h) ?_
    rintro ⟨params, h, -⟩
    cases h
  | cons function params =>
    have hparams : ∀ positions, params.mapM (paramPosition fields) = .ok positions ↔
        List.Forall₂ (FieldAt fields) params positions := by
      intro positions
      simp only [Result.mapM_eq_ok_iff, paramPosition_eq_ok_iff]
    constructor
    · intro h
      obtain ⟨positions, hpositions, hc⟩ := Result.bind_eq_ok_iff.1 h
      cases hc
      exact ⟨params, rfl, (hparams positions).1 hpositions⟩
    · rintro ⟨_, h, hpositions⟩
      cases h
      exact Result.bind_eq_ok_iff.2 ⟨c.params, (hparams c.params).2 hpositions, rfl⟩

/-! ## Arguments of structs -/

namespace StructArgument

/-- The text of a name. -/
def text? : StructArgument → Option String
  | name text => some text
  | constructor _ => none

/-- The names of a constructor. -/
def names? : StructArgument → Option (List String)
  | name _ => none
  | constructor names => some names

theorem mem_filterMap_names? {args : List StructArgument} {names : List String} :
    names ∈ args.filterMap names? ↔ .constructor names ∈ args := by
  rw [List.mem_filterMap]
  constructor
  · rintro ⟨b, hb, hnames⟩
    cases b <;> cases hnames
    exact hb
  · exact fun h => ⟨_, h, rfl⟩

end StructArgument

variable {d d' : StructDecl τ}

theorem applyArgument_constructor_eq_ok_iff : applyArgument d (.constructor names) = .ok d' ↔
    ∃ c, Calls d.fields names c ∧ d' = { d with constructors := d.constructors ++ [c] } := by
  simp only [← constructorOf_eq_ok_iff, applyArgument]
  cases constructorOf d.fields names with
  | error fault =>
    refine iff_of_false (fun h => by cases h) ?_
    rintro ⟨c, h, -⟩
    cases h
  | ok c =>
    constructor
    · intro h
      cases h
      exact ⟨c, rfl, rfl⟩
    · rintro ⟨_, h, rfl⟩
      cases h
      rfl

/-- **The arguments of a struct are accepted exactly if all constructors among them are**: they follow those before them,
in order, and the last name is the one that counts. -/
theorem foldlM_applyArgument_eq_ok_iff {args : List StructArgument} : args.foldlM applyArgument d = .ok d' ↔
    ∃ cs, List.Forall₂ (Calls d.fields) (args.filterMap StructArgument.names?) cs ∧ d' = { d with
      name := (args.filterMap StructArgument.text?).getLast?.getD d.name
      constructors := d.constructors ++ cs } := by
  -- A name is forgotten at the next one, while a constructor stays: so the induction is for any name and constructors.
  induction args generalizing d with
  | nil => simp [List.forall₂_nil_left_iff, pure, Except.pure, eq_comm]
  | cons b args ih =>
    rw [List.foldlM_cons, Result.bind_eq_ok_iff]
    cases b with
    | name text =>
      have hnames : (StructArgument.name text :: args).filterMap StructArgument.names? =
          args.filterMap StructArgument.names? := rfl
      have htexts : (StructArgument.name text :: args).filterMap StructArgument.text? =
          text :: args.filterMap StructArgument.text? := rfl
      simp only [applyArgument, Except.ok.injEq, exists_eq_left', ih, hnames, htexts, List.getLast?_cons,
        Option.getD_some]
    | constructor names =>
      have hnames : (StructArgument.constructor names :: args).filterMap StructArgument.names? =
          names :: args.filterMap StructArgument.names? := rfl
      have htexts : (StructArgument.constructor names :: args).filterMap StructArgument.text? =
          args.filterMap StructArgument.text? := rfl
      rw [hnames, htexts]
      constructor
      · rintro ⟨next, hnext, hrest⟩
        obtain ⟨c, hc, rfl⟩ := applyArgument_constructor_eq_ok_iff.1 hnext
        obtain ⟨cs, hcs, rfl⟩ := ih.1 hrest
        exact ⟨c :: cs, .cons hc hcs, by rw [List.append_assoc]; rfl⟩
      · rintro ⟨_, hall, rfl⟩
        cases hall with
        | @cons _ c _ cs hc hcs =>
          refine ⟨_, applyArgument_constructor_eq_ok_iff.2 ⟨c, hc, rfl⟩, ih.2 ⟨cs, hcs, ?_⟩⟩
          rw [List.append_assoc]
          rfl

/-! ## Structs -/

/-- The declaration is as the source of the struct says: a field for each field, a constructor for each argument that
declares one, over all attributes, both in order. -/
structure Mirrors (s : StructSource) (d : StructDecl (List Token)) : Prop where
  ident : d.ident = s.name
  fields : ∃ sources, s.body = .named sources ∧ List.Forall₂ FieldMirrors sources d.fields
  noneBare : NoneBare s.attributes
  arguments : ∃ lists,
    List.Forall₂ (fun ts args => StructArgument.Listed args ts) (mappedLists s.attributes) lists ∧
    d.name = (lists.flatten.filterMap StructArgument.text?).getLast?.getD s.name ∧
    List.Forall₂ (Calls d.fields) (lists.flatten.filterMap StructArgument.names?) d.constructors

/-- **Which structs are accepted, and as what.** -/
theorem declarationOf_eq_ok_iff_mirrors {s : StructSource} {d : StructDecl (List Token)} :
    declarationOf s = .ok d ↔ hasParameters s.generics = false ∧ Mirrors s d := by
  rw [declarationOf_eq_ok_iff]
  refine and_congr_right fun _ => ?_
  simp only [fieldOf_eq_ok_iff, foldlM_applyAttribute_eq_ok_iff, foldlM_applyArgument_eq_ok_iff]
  constructor
  · rintro ⟨sources, hbody, fields, hfields, hbare, lists, hlists, cs, hcs, rfl⟩
    exact ⟨rfl, ⟨sources, hbody, hfields⟩, hbare, lists, hlists, rfl, hcs⟩
  · rintro ⟨hident, ⟨sources, hbody, hfields⟩, hbare, lists, hlists, hname, hcs⟩
    obtain ⟨ident, name, fields, constructors⟩ := d
    obtain rfl := hident
    obtain rfl := hname
    exact ⟨sources, hbody, fields, hfields, hbare, lists, hlists, constructors, hcs, rfl⟩

/-- A struct is refused if a constructor takes something that is no field. -/
theorem declarationOf_unknownParameter {s : StructSource} {ts : List Token} {names : List String} {name : String}
    (hts : ts ∈ mappedLists s.attributes)
    (hnames : .constructor names ∈ (ArgumentList.read StructArgument.read ts).arguments) (hname : name ∈ names.tail)
    (hnone : ∀ sources, s.body = .named sources → ∀ source ∈ sources, source.name ≠ name) :
    ∃ refusal, declarationOf s = .error refusal := by
  cases hd : declarationOf s with
  | error refusal => exact ⟨refusal, rfl⟩
  | ok d =>
    exfalso
    obtain ⟨-, -, ⟨sources, hbody, hfields⟩, -, lists, hlists, -, hcalls⟩ := declarationOf_eq_ok_iff_mirrors.1 hd
    obtain ⟨args, hargs, hlisted⟩ := exists_of_mem_forall₂ hlists hts
    rw [StructArgument.accepts.read_eq_iff_written.2 hlisted] at hnames
    have hall := StructArgument.mem_filterMap_names?.2 (List.mem_flatten.2 ⟨args, hargs, hnames⟩)
    obtain ⟨c, -, params, rfl, hparams⟩ := exists_of_mem_forall₂ hcalls hall
    obtain ⟨i, -, f, hf, rfl, -⟩ := exists_of_mem_forall₂ hparams hname
    obtain ⟨source, hsource, hmirrors⟩ := exists_of_mem_forall₂ hfields.flip (List.mem_of_getElem? hf)
    exact hnone sources hbody source hsource hmirrors.name.symm

end Derive

end RowBinding
