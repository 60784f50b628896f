import RowBinding.Proofs.AlikeResults
import RowBinding.Sample.Structs
/-!
# Plans of shapes that are the same key

A routine is found again by a key that forgets most of what a field says.  **Planning forgets it as well** (`plans_same`):
for two equal keys it gives alike plans, or it fails for both in one way, and the texts of the two failures differ at most
in the case of the labels.
-/
namespace RowBinding

variable {α β γ : Type}

/-! ## Failures -/

namespace Failure

/-- The kinds of the mapper's own failures. -/
inductive Kind where
  | shapeMismatch
  | binding
  | conversion
  | registrationConflict
  deriving DecidableEq

def kind? : Failure → Option Kind
  | shapeMismatch .. => some .shapeMismatch
  | binding .. => some .binding
  | conversion .. => some .conversion
  | registrationConflict _ => some .registrationConflict
  | _ => none

/-- Failures of one kind whose texts differ at most in the case of letters. -/
structure Kindred (a b : Failure) : Prop where
  isMapping : a.isMapping = true
  kind : a.kind? = b.kind?
  text : Text.sameName a.message b.message = true

theorem kindred_shapeMismatch {p q : Fingerprint} (h : p.same q = true) {f g : ShapeFault}
    (hfg : Text.sameName f.message g.message = true) : (p.shapeMismatch f).Kindred (q.shapeMismatch g) :=
  ⟨rfl, rfl, sameName_shapeMismatch h hfg⟩

theorem kindred_bindingFailure {p q : Fingerprint} (h : p.same q = true) (fault : BindingFault) :
    (p.bindingFailure fault).Kindred (q.bindingFailure fault) := by
  obtain ⟨ht, -, -, hf⟩ := Fingerprint.same_iff.1 h
  refine ⟨rfl, rfl, ?_⟩
  simp only [Fingerprint.bindingFailure, message, chain, Text.joined, String.intercalate_singleton, ht]
  have hshape := Text.sameName_append_left (Fingerprint.sameName_shape hf) "Cannot bind shape "
  exact Text.sameName_append_right (Text.sameName_append_right (Text.sameName_append_right
    (Text.sameName_append_right hshape _) _) _) _

end Failure

namespace Result

/-- Values that are related, or failures of one kind. -/
def Kindred (R : β → γ → Prop) : Result β → Result γ → Prop
  | .ok b, .ok c => R b c
  | .error e, .error f => e.Kindred f
  | _, _ => False

variable {R : β → γ → Prop} {r : Result β} {s : Result γ}

theorem Kindred.exists_of_ok (h : Kindred R r s) {b : β} (hr : r = .ok b) : ∃ c, s = .ok c ∧ R b c := by
  subst hr
  cases s with
  | error e => cases h
  | ok c => exact ⟨c, rfl, h⟩

theorem Kindred.bind {δ ε : Type} {S : δ → ε → Prop} {f : β → Result δ} {g : γ → Result ε} (h : Kindred R r s)
    (hfg : ∀ b c, R b c → Kindred S (f b) (g c)) : Kindred S (r >>= f) (s >>= g) := by
  match r, s with
  | .ok b, .ok c => exact hfg b c h
  | .error e, .error f => exact h

end Result

/-! ## Analysis -/

section Analysis

variable {p q : Fingerprint}

/-- The label that repeats is the same in both shapes but for its case. -/
theorem Fingerprint.rel_duplicate? {fs gs : List Field} (h : Field.SameColumns fs gs) {seen seen' : List Field}
    (hseen : Field.SameColumns seen seen') :
    Option.Rel (fun f g => f.key = g.key) (duplicate? seen fs) (duplicate? seen' gs) := by
  induction h generalizing seen seen' with
  | nil => exact .none
  | @cons f g fs gs hfg hrest ih =>
    have hany : seen.any (·.isNamed f.label) = seen'.any (·.isNamed g.label) := by
      have hkey : Text.folded f.label = Text.folded g.label := hfg.1
      rw [Field.any_isNamed, Field.any_isNamed, hseen.map_key, hkey]
    rw [duplicate?, duplicate?, hany]
    split
    · exact .some hfg.1
    · exact ih (List.rel_append hseen (.cons hfg .nil))

theorem Fingerprint.kindred_checkUnique (h : p.same q = true) :
    Result.Kindred (fun _ _ => True) p.checkUnique q.checkUnique := by
  obtain ⟨-, -, -, hf⟩ := same_iff.1 h
  have hrel := rel_duplicate? hf (.refl [])
  unfold checkUnique
  generalize duplicate? [] p.fields = f?, duplicate? [] q.fields = g? at hrel
  cases hrel with
  | none => exact trivial
  | @some f g hkey =>
    have hlabel : Text.sameName f.label g.label = true := Text.sameName_iff.2 hkey
    have hfault := Text.sameName_append_right (Text.sameName_append_left hlabel "field `") "` appears more than once"
    exact Failure.kindred_shapeMismatch h hfault

theorem EntityDef.kindred_analyzeRow (h : p.same q = true) (e : EntityDef α) :
    Result.Kindred Eq (e.analyzeRow p) (e.analyzeRow q) := by
  obtain ⟨-, -, -, hf⟩ := Fingerprint.same_iff.1 h
  unfold analyzeRow
  rw [select?_sameColumns hf]
  cases e.select? q.fields with
  | none => exact Failure.kindred_bindingFailure h _
  | some found =>
    obtain ⟨selected, arguments⟩ := found
    dsimp only
    rw [assignments_sameColumns hf]
    split
    · exact Failure.kindred_bindingFailure h _
    · exact rfl

/-- **Equal keys are analysed alike, or in neither case.** -/
theorem TypeDef.kindred_analyzeRow (h : p.same q = true) (d : TypeDef α) :
    Result.Kindred Eq (d.analyzeRow p) (d.analyzeRow q) := by
  obtain ⟨-, -, -, hf⟩ := Fingerprint.same_iff.1 h
  unfold analyzeRow
  refine (Fingerprint.kindred_checkUnique h).bind fun _ _ _ => ?_
  cases d with
  | scalar s =>
    dsimp only
    rw [hf.length_eq]
    split
    · exact rfl
    · exact Failure.kindred_shapeMismatch h (Text.sameName_refl _)
  | entity e => exact EntityDef.kindred_analyzeRow h e

theorem TypeDef.kindred_analyzeParameters (h : p.same q = true) (d source : TypeDef α) :
    Result.Kindred Eq (d.analyzeParameters source p) (d.analyzeParameters source q) := by
  obtain ⟨-, -, -, hf⟩ := Fingerprint.same_iff.1 h
  unfold analyzeParameters
  refine (Fingerprint.kindred_checkUnique h).bind fun _ _ _ => ?_
  cases d with
  | scalar s => exact Failure.kindred_shapeMismatch h (Text.sameName_refl _)
  | entity e =>
    simp only [TypeDef.through?_same h, MemberDef.parameterBinding_sameColumns hf, ParameterBinding.before_sameColumns hf]
    split
    · exact Failure.kindred_bindingFailure h _
    · exact rfl

end Analysis

/-! ## Plans -/

namespace Plan

variable {rules : Rules α} {p q : Fingerprint}

theorem inboundOperation_alike {f g : Field} (h : f.key = g.key) (rule : FieldRule) (source : Nat) (t : ValueType)
    (nullable : Bool) (destination : Slot) :
    (inboundOperation rule f source t nullable destination).Alike
      (inboundOperation rule g source t nullable destination) := ⟨f.label, Text.sameName_iff.2 h, rfl⟩

theorem rel_getElem? {fs gs : List Field} (h : Field.SameColumns fs gs) (i : Nat) :
    Option.Rel (fun f g => f.key = g.key ∧ f.type = g.type) fs[i]? gs[i]? := by
  cases hf : fs[i]? with
  | none =>
    have hlen := List.getElem?_eq_none_iff.1 hf
    rw [List.getElem?_eq_none_iff.2 (h.length_eq ▸ hlen)]
    exact .none
  | some f =>
    obtain ⟨g, hg, hfg⟩ := forall₂_getElem?_left h hf
    rw [hg]
    exact .some hfg

/-- What is made of one field is alike where it does not look at more of the field than a key does. -/
theorem bind_field_alike {fs gs : List Field} (h : Field.SameColumns fs gs) (i : Nat) {k : Field → Option Operation}
    (hk : ∀ f g, f.key = g.key → f.type = g.type → Option.Rel Operation.Alike (k f) (k g)) :
    Option.Rel Operation.Alike (fs[i]?.bind k) (gs[i]?.bind k) := by
  have hrel := rel_getElem? h i
  generalize fs[i]? = f?, gs[i]? = g? at hrel
  cases hrel with
  | none => exact .none
  | some hfg => exact hk _ _ hfg.1 hfg.2

theorem argumentOperation?_same (h : p.same q = true) (e : EntityDef α) (c : ConstructorDef α) (a : ArgumentBinding) :
    Option.Rel Operation.Alike (argumentOperation? rules p e c a) (argumentOperation? rules q e c a) := by
  obtain ⟨ht, -, -, hf⟩ := Fingerprint.same_iff.1 h
  unfold argumentOperation?
  rw [ht]
  refine bind_field_alike hf a.field fun f g hkey htype => ?_
  rw [htype]
  cases c.params[a.param]? with
  | none => exact .none
  | some param => exact .some (inboundOperation_alike hkey _ _ _ _ _)

theorem assignmentOperation?_same (h : p.same q = true) (e : EntityDef α) (b : MemberBinding) :
    Option.Rel Operation.Alike (assignmentOperation? rules p e b) (assignmentOperation? rules q e b) := by
  obtain ⟨ht, -, -, hf⟩ := Fingerprint.same_iff.1 h
  unfold assignmentOperation?
  rw [ht]
  refine bind_field_alike hf b.field fun f g hkey htype => ?_
  rw [htype]
  cases e.members[b.member]? with
  | none => exact .none
  | some m => exact .some (inboundOperation_alike hkey _ _ _ _ _)

theorem filterMap_alike {f g : β → Option Operation} (h : ∀ b, Option.Rel Operation.Alike (f b) (g b)) (l : List β) :
    List.Forall₂ Operation.Alike (l.filterMap f) (l.filterMap g) := by
  induction l with
  | nil => exact .nil
  | cons b l ih =>
    have hb := h b
    rw [List.filterMap_cons, List.filterMap_cons]
    generalize f b = x, g b = y at hb
    cases hb with
    | none => exact ih
    | some hop => exact .cons hop ih

theorem inboundOperations_same (h : p.same q = true) (d : TypeDef α) (a : ShapeAnalysis) :
    List.Forall₂ Operation.Alike (inboundOperations rules p d a) (inboundOperations rules q d a) := by
  obtain ⟨ht, -, -, hf⟩ := Fingerprint.same_iff.1 h
  cases d with
  | scalar s =>
    unfold inboundOperations scalarOperation
    rw [ht]
    generalize p.fields = fs, q.fields = gs at hf
    cases hf with
    | nil => exact .nil
    | cons hfg =>
      simp only [List.head?_cons, Option.map_some, Option.toList_some, hfg.2]
      exact .cons (inboundOperation_alike hfg.1 _ _ _ _ _) .nil
  | entity e =>
    refine List.rel_append ?_ (filterMap_alike (assignmentOperation?_same h e) a.assignments)
    cases a.selected.bind (e.constructors[·]?) with
    | none => exact .nil
    | some c => exact filterMap_alike (argumentOperation?_same h e c) a.arguments

theorem outboundOperation?_same (h : p.same q = true) (e : EntityDef α) (source : TypeDef α) (b : ParameterBinding) :
    outboundOperation? rules p e source b = outboundOperation? rules q e source b := by
  obtain ⟨ht, hs, -, hf⟩ := Fingerprint.same_iff.1 h
  have hmembers : ∀ m : MemberDef α, outboundMembers p source m b = outboundMembers q source m b := by
    intro m
    simp only [outboundMembers, ht, hs]
  have htype : (b.field.bind (p.fields[·]?)).map (·.type) = (b.field.bind (q.fields[·]?)).map (·.type) := by
    rw [Option.map_bind, Option.map_bind]
    refine Option.bind_congr fun i _ => ?_
    show (p.fields[i]?).map (·.type) = (q.fields[i]?).map (·.type)
    have hrel := rel_getElem? hf i
    generalize p.fields[i]? = f?, q.fields[i]? = g? at hrel
    cases hrel with
    | none => rfl
    | some hfg => exact congrArg some hfg.2
  simp only [outboundOperation?, hmembers, htype]

theorem kindred_ofRow (h : p.same q = true) (d : TypeDef α) :
    Result.Kindred Alike (ofRow rules d p) (ofRow rules d q) := by
  refine (TypeDef.kindred_analyzeRow h d).bind fun a b hab => ?_
  subst hab
  exact ⟨h, rfl, rfl, inboundOperations_same h d a⟩

theorem kindred_ofParameters (h : p.same q = true) (d source : TypeDef α) :
    Result.Kindred (fun a b => a.fingerprint = p ∧ b = { a with fingerprint := q }) (ofParameters rules d source p)
      (ofParameters rules d source q) := by
  refine (TypeDef.kindred_analyzeParameters h d source).bind fun bs bs' hbs => ?_
  subst hbs
  cases d with
  | scalar s => exact ⟨rfl, rfl⟩
  | entity e =>
    dsimp only
    rw [funext (outboundOperation?_same h e source)]
    exact ⟨rfl, rfl⟩

/-- **For equal keys planning gives alike plans, or fails in one way.**  The operations of a row differ at most in the
case of their names, those of parameters not even in that. -/
theorem plans_same (rules : Rules α) (d source : TypeDef α) (p q : Fingerprint) (h : p.same q = true) :
    Result.Kindred Alike (ofRow rules d p) (ofRow rules d q) ∧
      Result.Kindred (fun a b => a.fingerprint = p ∧ b = { a with fingerprint := q }) (ofParameters rules d source p)
        (ofParameters rules d source q) :=
  ⟨kindred_ofRow h d, kindred_ofParameters h d source⟩

/-- Two columns of customers, and the same two under other capitals, an alias and a key. -/
def lowerCase : Fingerprint :=
  .rowToObject Sample.customerName [.column "id" (.integer .int64), .column "customer_name" .varchar]

def upperCase : Fingerprint :=
  .rowToObject Sample.customerName
    [((Field.column "c" (.integer .int64)).withAlias "ID").primary, (Field.column "CUSTOMER_NAME" .varchar).notNull]

theorem plans_same_customer :
    lowerCase.same upperCase = true ∧ lowerCase ≠ upperCase ∧
      ∃ a b, ofRow (.ofSettings {}) (.entity (Sample.withDefault Sample.customer)) lowerCase = .ok a ∧
        ofRow (.ofSettings {}) (.entity (Sample.withDefault Sample.customer)) upperCase = .ok b ∧ a.Alike b ∧
        a.operations.map (·.name) = ["id", "customer_name"] ∧ b.operations.map (·.name) = ["ID", "CUSTOMER_NAME"] := by
  have hsame : lowerCase.same upperCase = true := by decide
  have hlower : (ofRow (.ofSettings {}) (.entity (Sample.withDefault Sample.customer)) lowerCase).map
      (fun a => a.operations.map (·.name)) = .ok ["id", "customer_name"] := by decide
  have hupper : (ofRow (.ofSettings {}) (.entity (Sample.withDefault Sample.customer)) upperCase).map
      (fun a => a.operations.map (·.name)) = .ok ["ID", "CUSTOMER_NAME"] := by decide
  obtain ⟨a, ha, hnames⟩ := Result.map_eq_ok_iff.1 hlower
  have hplans := plans_same (.ofSettings {}) (.entity (Sample.withDefault Sample.customer))
    (.entity (Sample.withDefault Sample.customer)) lowerCase upperCase hsame
  obtain ⟨b, hb, hab⟩ := hplans.1.exists_of_ok ha
  rw [hb] at hupper
  exact ⟨hsame, by decide, a, b, ha, hb, hab, hnames, Except.ok.inj hupper⟩

end Plan

end RowBinding
