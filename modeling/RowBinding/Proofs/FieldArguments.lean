import RowBinding.Proofs.WrittenArguments
/-!
# What the arguments of a field come to

Every attribute of a field carries arguments, and each of them changes how the field is mapped.  **In a struct that is
accepted every argument that was read has its effect, but reading stops without a word where a list breaks off**
(`declarationOf_arguments`): what stands behind the fault is lost.  On the struct itself such a list is refused.
-/
namespace RowBinding

namespace Derive

/-- The lists of arguments of the attributes that count. -/
def mappedLists (attributes : List AttributeSource) : List (List Token) :=
  attributes.filterMap fun a =>
    match MappedAttribute.ofSource a with
    | .list ts => some ts
    | _ => none

/-- None of the attributes that count is without a list. -/
def NoneBare (attributes : List AttributeSource) : Prop := ∀ a ∈ attributes, MappedAttribute.ofSource a ≠ .bare

theorem mem_mappedLists {attributes : List AttributeSource} {ts : List Token} :
    ts ∈ mappedLists attributes ↔ ∃ a ∈ attributes, MappedAttribute.ofSource a = .list ts := by
  rw [mappedLists, List.mem_filterMap]
  refine exists_congr fun a => and_congr_right fun _ => ?_
  cases MappedAttribute.ofSource a <;> simp

/-- **Attributes are accepted one after the other exactly if each that counts has a list and each list is accepted**, and
then the arguments of all lists have taken effect in order. -/
theorem foldlM_attributes_eq_ok_iff {σ β : Type} {step : σ → AttributeSource → Except Refusal σ}
    (apply : σ → β → Except Refusal σ) (reads : List Token → List β → Prop)
    (hforeign : ∀ s a, MappedAttribute.ofSource a = .foreign → step s a = .ok s)
    (hbare : ∀ s a s', MappedAttribute.ofSource a = .bare → step s a ≠ .ok s')
    (hlist : ∀ s a s' ts, MappedAttribute.ofSource a = .list ts →
      (step s a = .ok s' ↔ ∃ args, reads ts args ∧ args.foldlM apply s = .ok s'))
    {attributes : List AttributeSource} {s s' : σ} : attributes.foldlM step s = .ok s' ↔ NoneBare attributes ∧
      ∃ lists, List.Forall₂ reads (mappedLists attributes) lists ∧ lists.flatten.foldlM apply s = .ok s' := by
  induction attributes generalizing s with
  | nil =>
    constructor
    · intro h
      exact ⟨fun a ha => (by cases ha), [], .nil, h⟩
    · rintro ⟨-, lists, hlists, h⟩
      cases hlists
      exact h
  | cons a attributes ih =>
    rw [List.foldlM_cons, Result.bind_eq_ok_iff, NoneBare, List.forall_mem_cons]
    cases ha : MappedAttribute.ofSource a with
    | foreign =>
      have hlists : mappedLists (a :: attributes) = mappedLists attributes := by simp [mappedLists, ha]
      simp only [hforeign s a ha, Except.ok.injEq, exists_eq_left', ih, hlists, ne_eq, reduceCtorEq, not_false_eq_true,
        true_and]
      rfl
    | bare =>
      refine iff_of_false ?_ fun h => h.1.1 rfl
      rintro ⟨next, hnext, -⟩
      exact hbare s a next ha hnext
    | list ts =>
      have hlists : mappedLists (a :: attributes) = ts :: mappedLists attributes := by simp [mappedLists, ha]
      rw [hlists]
      constructor
      · rintro ⟨next, hnext, hrest⟩
        obtain ⟨args, hargs, hstep⟩ := (hlist s a next ts ha).1 hnext
        obtain ⟨hnone, lists, hlists, hfold⟩ := ih.1 hrest
        refine ⟨⟨by simp, hnone⟩, args :: lists, .cons hargs hlists, ?_⟩
        rw [List.flatten_cons, List.foldlM_append, hstep]
        exact hfold
      · rintro ⟨⟨-, hnone⟩, lists, hlists, hfold⟩
        cases hlists with
        | cons hargs hlists =>
          rw [List.flatten_cons, List.foldlM_append] at hfold
          obtain ⟨next, hstep, hrest⟩ := Result.bind_eq_ok_iff.1 hfold
          exact ⟨next, (hlist s a next ts ha).2 ⟨_, hargs, hstep⟩, ih.2 ⟨hnone, _, hlists, hrest⟩⟩

namespace FieldArgument

/-- The tokens are these arguments with commas between them. -/
def Listed (args : List FieldArgument) (ts : List Token) : Prop := ArgumentList.Written Written args ts

/-- The tokens begin with these arguments and go on with something that is out of place. -/
def CutShort (args : List FieldArgument) (ts : List Token) : Prop :=
  ArgumentList.BreaksOff Written ArgumentPath.Missing args ts

variable {args args' : List FieldArgument} {ts : List Token}

theorem read_eq_iff_listed : ArgumentList.read read ts = ⟨args, none⟩ ↔ Listed args ts := accepts.read_eq_iff_written

theorem read_fault_iff_cutShort : (∃ f, ArgumentList.read read ts = ⟨args, some (.fault f)⟩) ↔ CutShort args ts :=
  accepts.read_fault_iff_breaksOff fun _ => ArgumentList.readFirst_fault_iff read_ne_fault

theorem Listed.not_cutShort (h : Listed args ts) : ¬ CutShort args' ts := by
  intro hcut
  obtain ⟨f, hf⟩ := read_fault_iff_cutShort.2 hcut
  cases (read_eq_iff_listed.2 h).symm.trans hf

/-- The text of a name. -/
def text? : FieldArgument → Option String
  | name text => some text
  | _ => none

end FieldArgument

end Derive

namespace StructField

variable {τ : Type} {f : StructField τ} {before args : List Derive.FieldArgument} {b : Derive.FieldArgument}

/-- The field is mapped as these arguments say, the last name among them. -/
structure Shows (f : StructField τ) (args : List Derive.FieldArgument) : Prop where
  skipped : f.skipped = true ↔ .skip ∈ args
  readOnly : f.readOnly = true ↔ .readOnly ∈ args
  mappedName : f.mappedName = (args.filterMap Derive.FieldArgument.text?).getLast?

theorem plain_shows (name : String) (type : τ) : (plain name type).Shows [] where
  skipped := by simp [plain]
  readOnly := by simp [plain]
  mappedName := rfl

/-- **An argument takes effect, and what the others have done stays.** -/
theorem Shows.apply (h : f.Shows before) (b : Derive.FieldArgument) : (b.apply f).Shows (before ++ [b]) := by
  cases b <;> constructor <;>
    simp [Derive.FieldArgument.apply, Derive.FieldArgument.text?, h.skipped, h.readOnly, h.mappedName]

theorem Shows.foldl (h : f.Shows before) (args : List Derive.FieldArgument) :
    (args.foldl Derive.FieldArgument.apply f).Shows (before ++ args) := by
  induction args generalizing f before with
  | nil => rwa [List.append_nil]
  | cons b args ih =>
    rw [List.append_cons]
    exact ih (h.apply b)

/-- Arguments change neither the name of a field nor its type. -/
theorem foldl_apply_frame (f : StructField τ) (args : List Derive.FieldArgument) :
    (args.foldl Derive.FieldArgument.apply f).name = f.name ∧
      (args.foldl Derive.FieldArgument.apply f).type = f.type := by
  induction args generalizing f with
  | nil => exact ⟨rfl, rfl⟩
  | cons b args ih =>
    obtain ⟨hname, htype⟩ := ih (b.apply f)
    rw [List.foldl_cons, hname, htype]
    cases b <;> exact ⟨rfl, rfl⟩

end StructField

namespace Derive

variable {τ : Type} {f g : StructField τ} {a : AttributeSource} {attributes : List AttributeSource}

/-! ## Fields -/

/-- What the arguments of a list are when it is read on a field: all of them, or those before a fault. -/
def FieldArgument.ReadAs (ts : List Token) (args : List FieldArgument) : Prop := Listed args ts ∨ CutShort args ts

theorem FieldArgument.readAs_iff {ts : List Token} {args : List FieldArgument} : ReadAs ts args ↔
    ((ArgumentList.read read ts).stop.bind fieldRefusal = none ∧ (ArgumentList.read read ts).arguments = args) := by
  rw [ReadAs, ← read_eq_iff_listed, ← read_fault_iff_cutShort]
  obtain ⟨found, stop⟩ := ArgumentList.read read ts
  cases stop with
  | none => simp
  | some stop => cases stop <;> simp [fieldRefusal]

theorem applyToField_list {ts : List Token} (ha : MappedAttribute.ofSource a = .list ts) :
    applyToField f a = .ok g ↔ ∃ args, FieldArgument.ReadAs ts args ∧ args.foldl FieldArgument.apply f = g := by
  simp only [applyToField, ha, FieldArgument.readAs_iff]
  cases (ArgumentList.read FieldArgument.read ts).stop.bind fieldRefusal with
  | some refusal =>
    refine iff_of_false (fun h => by cases h) ?_
    rintro ⟨args, ⟨h, -⟩, -⟩
    cases h
  | none =>
    constructor
    · intro h
      cases h
      exact ⟨_, ⟨rfl, rfl⟩, rfl⟩
    · rintro ⟨args, ⟨-, rfl⟩, rfl⟩
      rfl

/-- **The attributes of a field are accepted exactly if each has a list and each list is complete or cut short**, and
then the arguments of all of them have been applied in order. -/
theorem foldlM_applyToField_eq_ok_iff : attributes.foldlM applyToField f = .ok g ↔ NoneBare attributes ∧
    ∃ lists, List.Forall₂ FieldArgument.ReadAs (mappedLists attributes) lists ∧
      g = lists.flatten.foldl FieldArgument.apply f := by
  have hpure : ∀ (args : List FieldArgument) (f g : StructField τ),
      args.foldlM (fun f b => Except.ok (ε := Refusal) (b.apply f)) f = .ok g ↔ args.foldl FieldArgument.apply f = g := by
    intro args f g
    have hfold : args.foldlM (fun f b => Except.ok (ε := Refusal) (b.apply f)) f =
        .ok (args.foldl FieldArgument.apply f) := List.foldlM_pure
    rw [hfold, Except.ok.injEq]
  rw [foldlM_attributes_eq_ok_iff (fun f b => .ok (b.apply f)) FieldArgument.ReadAs]
  · simp only [hpure, eq_comm]
  · intro f a ha
    simp only [applyToField, ha]
  · intro f a g ha h
    simp only [applyToField, ha] at h
    cases h
  · intro f a g ts ha
    rw [applyToField_list ha]
    simp only [hpure]

/-- A field that is accepted shows the arguments that were read, of all its attributes in order. -/
theorem fieldOf_ok {source : FieldSource} {field : StructField (List Token)} (h : fieldOf source = .ok field) :
    field.name = source.name ∧ NoneBare source.attributes ∧ ∃ lists,
      List.Forall₂ FieldArgument.ReadAs (mappedLists source.attributes) lists ∧ field.Shows lists.flatten := by
  obtain ⟨hbare, lists, hlists, rfl⟩ := foldlM_applyToField_eq_ok_iff.1 h
  refine ⟨(StructField.foldl_apply_frame _ _).1, hbare, lists, hlists, ?_⟩
  exact (StructField.plain_shows source.name (Canonical.ofType source.type)).foldl lists.flatten

/-! ## Structs -/

variable {d d' : StructDecl (List Token)}

theorem foldlM_applyArgument_fields {args : List StructArgument} (h : args.foldlM applyArgument d = .ok d') :
    d'.fields = d.fields := by
  induction args generalizing d with
  | nil =>
    cases h
    rfl
  | cons b args ih =>
    obtain ⟨next, hnext, hrest⟩ := Result.bind_eq_ok_iff.1 h
    rw [ih hrest]
    cases b with
    | name text =>
      cases hnext
      rfl
    | constructor names =>
      obtain ⟨c, -, hc⟩ := Result.bind_eq_ok_iff.1 hnext
      cases hc
      rfl

/-- The tokens are these arguments of a struct with commas between them. -/
def StructArgument.Listed (args : List StructArgument) (ts : List Token) : Prop := ArgumentList.Written Written args ts

theorem applyAttribute_list {ts : List Token} (ha : MappedAttribute.ofSource a = .list ts) :
    applyAttribute d a = .ok d' ↔ ∃ args, StructArgument.Listed args ts ∧ args.foldlM applyArgument d = .ok d' := by
  simp only [applyAttribute, ha, Result.bind_eq_ok_iff, StructArgument.Listed,
    ← StructArgument.accepts.read_eq_iff_written]
  obtain ⟨found, stop⟩ := ArgumentList.read StructArgument.read ts
  cases stop with
  | some stop =>
    refine iff_of_false ?_ ?_
    · rintro ⟨next, -, h⟩
      cases h
    · rintro ⟨args, h, -⟩
      cases h
  | none =>
    constructor
    · rintro ⟨next, hnext, h⟩
      cases h
      exact ⟨found, rfl, hnext⟩
    · rintro ⟨args, h, hfold⟩
      cases h
      exact ⟨d', hfold, rfl⟩

/-- **The attributes of a struct are accepted exactly if each has a list, each list is complete and every argument
is accepted in its turn.** -/
theorem foldlM_applyAttribute_eq_ok_iff : attributes.foldlM applyAttribute d = .ok d' ↔ NoneBare attributes ∧
    ∃ lists, List.Forall₂ (fun ts args => StructArgument.Listed args ts) (mappedLists attributes) lists ∧
      lists.flatten.foldlM applyArgument d = .ok d' := by
  refine foldlM_attributes_eq_ok_iff applyArgument _ (fun d a ha => ?_) (fun d a d' ha h => ?_)
    fun d a d' ts ha => applyAttribute_list ha
  · simp only [applyAttribute, ha]
  · simp only [applyAttribute, ha] at h
    cases h

/-- **Which structs are accepted, and as what**: those without parameters, with fields that are accepted, and with
attributes that are accepted after them. -/
theorem declarationOf_eq_ok_iff {s : StructSource} : declarationOf s = .ok d ↔ hasParameters s.generics = false ∧
    ∃ sources, s.body = .named sources ∧ ∃ fields,
      List.Forall₂ (fun source field => fieldOf source = .ok field) sources fields ∧
      s.attributes.foldlM applyAttribute ⟨s.name, s.name, fields, []⟩ = .ok d := by
  obtain ⟨name, generics, attributes, body⟩ := s
  cases hgenerics : hasParameters generics with
  | true => simp [declarationOf, hgenerics]
  | false =>
    cases body with
    | tuple => simp [declarationOf, hgenerics]
    | unit => simp [declarationOf, hgenerics]
    | named sources =>
      simp only [declarationOf, hgenerics, Bool.false_eq_true, if_false, Result.bind_eq_ok_iff, Result.mapM_eq_ok_iff,
        true_and, StructBody.named.injEq, exists_eq_left']

theorem declarationOf_ok {name : String} {generics : List Token} {sources : List FieldSource}
    (h : declarationOf ⟨name, generics, attributes, .named sources⟩ = .ok d) :
    List.Forall₂ (fun source field => fieldOf source = .ok field) sources d.fields ∧ NoneBare attributes ∧
      ∀ ts ∈ mappedLists attributes, ∃ args, ArgumentList.Written StructArgument.Written args ts := by
  obtain ⟨-, sources', hbody, fields, hfields, hattributes⟩ := declarationOf_eq_ok_iff.1 h
  obtain ⟨hbare, lists, hlists, hfold⟩ := foldlM_applyAttribute_eq_ok_iff.1 hattributes
  cases hbody
  rw [foldlM_applyArgument_fields hfold]
  refine ⟨hfields, hbare, fun ts hts => ?_⟩
  obtain ⟨args, -, hargs⟩ := exists_of_mem_forall₂ hlists hts
  exact ⟨args, hargs⟩

/-- Every argument on a field counts: either the struct is refused, or the list of every attribute of every field is
complete and the field shows all the arguments in them. -/
def Heeds (name : String) (generics : List Token) (attributes : List AttributeSource) (sources : List FieldSource) :
    Prop :=
  match declarationOf ⟨name, generics, attributes, .named sources⟩ with
  | .error _ => True
  | .ok d => List.Forall₂ (fun source field => ∃ lists,
      List.Forall₂ (fun ts args => FieldArgument.Listed args ts) (mappedLists source.attributes) lists ∧
        field.Shows lists.flatten) sources d.fields

variable {name : String} {generics : List Token} {sources : List FieldSource}

/-- **Arguments are lost only where a list is cut short.** -/
theorem heeds_iff : Heeds name generics attributes sources ↔
    (∃ refusal, declarationOf ⟨name, generics, attributes, .named sources⟩ = .error refusal) ∨
      ∀ source ∈ sources, ∀ ts ∈ mappedLists source.attributes, ∀ args, ¬ FieldArgument.CutShort args ts := by
  unfold Heeds
  cases hd : declarationOf ⟨name, generics, attributes, .named sources⟩ with
  | error refusal => exact iff_of_true trivial (.inl ⟨refusal, rfl⟩)
  | ok d =>
    obtain ⟨hfields, -, -⟩ := declarationOf_ok hd
    constructor
    · refine fun h => .inr fun source hsource ts hts args => ?_
      obtain ⟨field, -, lists, hlists, -⟩ := exists_of_mem_forall₂ h hsource
      obtain ⟨args', -, hlisted⟩ := exists_of_mem_forall₂ hlists hts
      exact hlisted.not_cutShort
    · rintro (⟨refusal, h⟩ | hcomplete)
      · cases h
      · refine ((List.forall₂_and_left _ _).2 ⟨hcomplete, hfields⟩).imp fun source field ⟨hsource, hfield⟩ => ?_
        obtain ⟨-, -, lists, hlists, hshows⟩ := fieldOf_ok hfield
        refine ⟨lists, ((List.forall₂_and_left _ _).2 ⟨hsource, hlists⟩).imp fun ts args ⟨hts, hread⟩ => ?_, hshows⟩
        exact hread.resolve_right (hts args)

/-- **What a struct that is accepted makes of the arguments on its fields.**  Each attribute has a list, and each list
is complete, or it is cut short at something that no argument begins with or that is no comma.  The field shows the
arguments of all its lists in order, those before the fault where a list is cut short.  The lists of the struct itself
are all complete.  So no argument on a field is lost, unless the list it stands in is cut short and the struct is
accepted for all that. -/
theorem declarationOf_arguments (name : String) (generics : List Token) (attributes : List AttributeSource)
    (sources : List FieldSource) :
    (∀ d, declarationOf ⟨name, generics, attributes, .named sources⟩ = .ok d →
      List.Forall₂ (fun source field => field.name = source.name ∧ NoneBare source.attributes ∧ ∃ lists,
        List.Forall₂ (fun ts args => FieldArgument.Listed args ts ∨ FieldArgument.CutShort args ts)
          (mappedLists source.attributes) lists ∧ field.Shows lists.flatten) sources d.fields ∧
      NoneBare attributes ∧
      ∀ ts ∈ mappedLists attributes, ∃ args, ArgumentList.Written StructArgument.Written args ts) ∧
    (Heeds name generics attributes sources ↔
      (∃ refusal, declarationOf ⟨name, generics, attributes, .named sources⟩ = .error refusal) ∨
        ∀ source ∈ sources, ∀ ts ∈ mappedLists source.attributes, ∀ args, ¬ FieldArgument.CutShort args ts) := by
  refine ⟨fun d hd => ?_, heeds_iff⟩
  obtain ⟨hfields, hbare, hlists⟩ := declarationOf_ok hd
  exact ⟨hfields.imp fun source field hfield => fieldOf_ok hfield, hbare, hlists⟩

end Derive

namespace Sample

open Derive

/-- The arguments `name = "a", read_only` and `name = "b",` of two attributes. -/
def carefulLists : List (List Token) :=
  [[.word "name", .sign '=' false, .literal "\"a\"" (.text "a"), .sign ',' false, .word "read_only"],
    [.word "name", .sign '=' false, .literal "\"b\"" (.text "b"), .sign ',' false]]

def carefulField : FieldSource :=
  ⟨"x", [.word "u8"], carefulLists.map fun ts => .word "mapped" :: .opening .round :: ts ++ [.closing .round]⟩

theorem listed_careful : List.Forall₂ (fun ts args => FieldArgument.Listed args ts) carefulLists
    [[.name "a", .readOnly], [.name "b"]] := by
  have hname : ∀ source text after, FieldArgument.Written (.name text)
      [.word "name", .sign '=' false, .literal source (.text text)] after := by
    intro source text after
    exact .name false source text
  have hword : FieldArgument.Written .readOnly [.word "read_only"] [] := .readOnly not_goesOn_nil
  have hfirst := ArgumentList.Written.cons false (hname "\"a\"" "a" _) (.last hword)
  have hsecond := ArgumentList.Written.cons false (hname "\"b\"" "b" _) .nil
  exact .cons hfirst (.cons hsecond .nil)

theorem declarationOf_careful : declarationOf ⟨"S", [], [], .named [carefulField]⟩ =
    .ok ⟨"S", "S", [⟨"x", Canonical.ofType [.word "u8"], some "b", true, false⟩], []⟩ := by
  have hfield : fieldOf carefulField = .ok ⟨"x", Canonical.ofType [.word "u8"], some "b", true, false⟩ := by
    refine foldlM_applyToField_eq_ok_iff.2 ⟨?_, _, listed_careful.imp fun _ _ => .inl, rfl⟩
    unfold NoneBare
    decide
  show (List.mapM fieldOf [carefulField] >>= _) = _
  rw [List.mapM_cons, hfield]
  rfl

theorem declarationOf_arguments_careful :
    (∃ d, declarationOf ⟨"S", [], [], .named [carefulField]⟩ = .ok d ∧
      List.Forall₂ (fun source field => field.name = source.name ∧ NoneBare source.attributes ∧ ∃ lists,
        List.Forall₂ (fun ts args => FieldArgument.Listed args ts ∨ FieldArgument.CutShort args ts)
          (mappedLists source.attributes) lists ∧ field.Shows lists.flatten) [carefulField] d.fields) ∧
    Heeds "S" [] [] [carefulField] := by
  have harguments := declarationOf_arguments "S" [] [] [carefulField]
  refine ⟨⟨_, declarationOf_careful, (harguments.1 _ declarationOf_careful).1⟩, harguments.2.2 (.inr ?_)⟩
  intro source hsource ts hts args
  obtain rfl := List.mem_singleton.1 hsource
  obtain ⟨_, -, hlisted⟩ := exists_of_mem_forall₂ listed_careful hts
  exact hlisted.not_cutShort

/-- The attribute `mapped(read_only skip)`, in which a comma is missing. -/
def carelessAttribute : AttributeSource :=
  [.word "mapped", .opening .round, .word "read_only", .word "skip", .closing .round]

def carelessField : FieldSource := ⟨"x", [.word "u8"], [carelessAttribute]⟩

theorem cutShort_careless : FieldArgument.CutShort [.readOnly] [.word "read_only", .word "skip"] := by
  have hword : FieldArgument.Written .readOnly [.word "read_only"] [.word "skip"] := by
    refine .readOnly ?_
    rintro ⟨joined, rest, h⟩
    cases h
  refine ArgumentList.BreaksOff.comma hword (List.cons_ne_nil _ _) fun joined rest h => ?_
  cases h

theorem declarationOf_careless : declarationOf ⟨"S", [], [], .named [carelessField]⟩ =
    .ok ⟨"S", "S", [{ StructField.plain "x" (Canonical.ofType [.word "u8"]) with readOnly := true }], []⟩ := by
  have hfield : fieldOf carelessField =
      .ok { StructField.plain "x" (Canonical.ofType [.word "u8"]) with readOnly := true } := by
    refine foldlM_applyToField_eq_ok_iff.2 ⟨?_, [[.readOnly]], .cons (.inr cutShort_careless) .nil, rfl⟩
    intro a ha
    obtain rfl := List.mem_singleton.1 ha
    decide
  show (List.mapM fieldOf [carelessField] >>= _) = _
  rw [List.mapM_cons, hfield]
  rfl

/-- The second argument of the careless list is lost. -/
theorem careless_not_heeded : ¬ Heeds "S" [] [] [carelessField] := by
  rw [heeds_iff]
  rintro (⟨refusal, h⟩ | h)
  · cases declarationOf_careless.symm.trans h
  · exact h carelessField List.mem_cons_self _ (mem_mappedLists.2 ⟨_, List.mem_cons_self, rfl⟩) _ cutShort_careless

end Sample

end RowBinding
