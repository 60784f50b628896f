import RowBinding.Proofs.SameShape
import RowBinding.Routine.Parameters
/-!
# Results that differ in the case of labels

A routine that is found in the cache quotes the labels of the shape it was compiled for, and the shape at hand may write
the same names in other capitals.  **Failures that are alike are of one kind, and their texts differ at most in the
case of ASCII letters** (`Failure.Alike.sameText`); the values of alike results are related as the results demand.
-/
namespace RowBinding

/-! ## Texts -/

namespace Text

theorem folded_append (a b : String) : folded (a ++ b) = folded a ++ folded b := by
  rw [folded, String.toList_append, List.map_append]
  rfl

theorem sameName_append {a b c d : String} (hab : sameName a b = true) (hcd : sameName c d = true) :
    sameName (a ++ c) (b ++ d) = true := by
  rw [sameName_iff, folded_append, folded_append, sameName_iff.1 hab, sameName_iff.1 hcd]

theorem sameName_append_left {a b : String} (h : sameName a b = true) (c : String) : sameName (c ++ a) (c ++ b) = true :=
  sameName_append (sameName_refl c) h

theorem sameName_append_right {a b : String} (h : sameName a b = true) (c : String) : sameName (a ++ c) (b ++ c) = true :=
  sameName_append h (sameName_refl c)

end Text

namespace Fingerprint

/-- A label and a type as a shape writes them. -/
def appendColumn (out : String) (f : Field) : String := out ++ f.label ++ ": " ++ f.type.text

theorem size_lt_appendColumn (out : String) (f : Field) : out.utf8ByteSize < (appendColumn out f).utf8ByteSize := by
  have hcolon : (": " : String).utf8ByteSize = 2 := by decide
  rw [appendColumn, String.utf8ByteSize_append, String.utf8ByteSize_append, String.utf8ByteSize_append, hcolon]
  omega

theorem sameName_appendColumn {a b : String} (hab : Text.sameName a b = true) {f g : Field}
    (hfg : f.key = g.key ∧ f.type = g.type) : Text.sameName (appendColumn a f) (appendColumn b g) = true := by
  rw [appendColumn, appendColumn, hfg.2]
  have hlabel : Text.sameName f.label g.label = true := Text.sameName_iff.2 hfg.1
  exact Text.sameName_append_right (Text.sameName_append_right (Text.sameName_append hab hlabel) _) _

theorem sameName_appendSeparatedFrom {fs gs : List Field} (h : Field.SameColumns fs gs) {a b : String} {m n : Nat}
    (hab : Text.sameName a b = true) (hsize : m < a.utf8ByteSize ↔ n < b.utf8ByteSize) :
    Text.sameName (Text.appendSeparatedFrom appendColumn ", " m a fs)
      (Text.appendSeparatedFrom appendColumn ", " n b gs) = true := by
  induction h generalizing a b m n with
  | nil => exact hab
  | cons hfg _ ih =>
    rw [Text.appendSeparatedFrom, Text.appendSeparatedFrom]
    refine ih (sameName_appendColumn ?_ hfg) (iff_of_true (size_lt_appendColumn _ _) (size_lt_appendColumn _ _))
    by_cases hm : m < a.utf8ByteSize
    · rw [if_pos hm, if_pos (hsize.1 hm)]
      exact Text.sameName_append_right hab _
    · rw [if_neg hm, if_neg fun hn => hm (hsize.2 hn)]
      exact hab

theorem sameName_shape {p q : Fingerprint} (h : Field.SameColumns p.fields q.fields) :
    Text.sameName p.shape q.shape = true :=
  Text.sameName_append_right (sameName_appendSeparatedFrom h (Text.sameName_refl _) Iff.rfl) _

theorem sameName_text {p q : Fingerprint} (h : p.same q = true) : Text.sameName p.text q.text = true := by
  obtain ⟨ht, -, hd, hf⟩ := same_iff.1 h
  rw [text, text, ht, hd]
  have hshape := Text.sameName_append_left (sameName_shape hf) ("`" ++ q.target ++ "` ")
  exact Text.sameName_append_right (Text.sameName_append_right (Text.sameName_append_right hshape _) _) _

end Fingerprint

/-! ## Failures -/

namespace Failure

/-- The failures are the same but for the case of the labels that they quote. -/
inductive Alike : Failure → Failure → Prop
  | refl (e : Failure) : Alike e e
  | shape {p q : Fingerprint} (h : p.same q = true) (fault : ShapeFault) :
    Alike (p.shapeMismatch fault) (q.shapeMismatch fault)
  | field (target : TypeName) {f g : String} (h : Text.sameName f g = true) (reason : Failure) :
    Alike (.conversion target f reason) (.conversion target g reason)
  | plan {p q : Fingerprint} (h : p.same q = true) : Alike (.emptyPlan p.text) (.emptyPlan q.text)

theorem Alike.isAbort {a b : Failure} (h : a.Alike b) : a.isAbort = b.isAbort := by
  cases h <;> rfl

theorem Alike.isMapping {a b : Failure} (h : a.Alike b) : a.isMapping = b.isMapping := by
  cases h <;> rfl

theorem sameName_shapeMismatch {p q : Fingerprint} (h : p.same q = true) {f g : ShapeFault}
    (hfg : Text.sameName f.message g.message = true) :
    Text.sameName (p.shapeMismatch f).message (q.shapeMismatch g).message = true := by
  obtain ⟨ht, -, -, hf⟩ := Fingerprint.same_iff.1 h
  simp only [Fingerprint.shapeMismatch, message, chain, Text.joined, String.intercalate_singleton, ht]
  have hshape := Text.sameName_append_left (Fingerprint.sameName_shape hf) "Shape "
  have htarget := Text.sameName_append_right (Text.sameName_append_right (Text.sameName_append_right hshape
    " cannot be mapped to `") q.target) "`: "
  exact Text.sameName_append htarget hfg

/-- **Alike failures have the same text but for the case of letters.** -/
theorem Alike.sameText {a b : Failure} (h : a.Alike b) : Text.sameName a.message b.message = true := by
  cases h with
  | refl => exact Text.sameName_refl _
  | shape h fault => exact sameName_shapeMismatch h (Text.sameName_refl _)
  | field target h reason =>
    simp only [message, chain, Text.joined, String.intercalate_singleton]
    have hfield := Text.sameName_append_left h "Cannot convert field `"
    exact Text.sameName_append_right (Text.sameName_append_right (Text.sameName_append_right
      (Text.sameName_append_right hfield _) _) _) _
  | plan h =>
    simp only [message, chain, Text.joined, String.intercalate_singleton]
    exact Text.sameName_append_left (Fingerprint.sameName_text h) _

theorem alike_inField (target : TypeName) {f g : String} (h : Text.sameName f g = true) (e : Failure) :
    (inField target f e).Alike (inField target g e) := by
  cases e with
  | abort => exact .refl _
  | _ => exact .field target h _

end Failure

/-! ## Results -/

namespace Result

variable {β γ δ ε : Type}

/-- Alike failures, or values that are related. -/
def Alike (R : β → γ → Prop) : Result β → Result γ → Prop
  | .ok b, .ok c => R b c
  | .error e, .error f => e.Alike f
  | _, _ => False

theorem alike_of_cases {R : β → γ → Prop} {r : Result β} {s : Result γ}
    (h : (∃ e, r = .error e ∧ s = .error e) ∨ ∃ b c, r = .ok b ∧ s = .ok c ∧ R b c) : Alike R r s := by
  rcases h with ⟨e, rfl, rfl⟩ | ⟨b, c, rfl, rfl, hbc⟩
  · exact .refl e
  · exact hbc

theorem alike_refl {R : β → β → Prop} (hR : ∀ b, R b b) (r : Result β) : Alike R r r := by
  cases r with
  | ok b => exact hR b
  | error e => exact .refl e

theorem Alike.exists_of_ok {R : β → γ → Prop} {b : β} {r : Result γ} (h : Alike R (.ok b) r) :
    ∃ c, r = .ok c ∧ R b c := by
  cases r with
  | error e => cases h
  | ok c => exact ⟨c, rfl, h⟩

theorem Alike.eq_of_ok {r : Result β} {b : β} (h : Alike Eq r (.ok b)) : r = .ok b := by
  cases r with
  | error e => cases h
  | ok c => exact congrArg Except.ok h

theorem Alike.mono {R S : β → γ → Prop} (hRS : ∀ b c, R b c → S b c) {r : Result β} {s : Result γ} (h : Alike R r s) :
    Alike S r s := by
  match r, s with
  | .ok b, .ok c => exact hRS b c h
  | .error e, .error f => exact h

theorem Alike.bind {R : β → γ → Prop} {S : δ → ε → Prop} {r : Result β} {s : Result γ} {f : β → Result δ}
    {g : γ → Result ε} (h : Alike R r s) (hfg : ∀ b c, R b c → Alike S (f b) (g c)) : Alike S (r >>= f) (s >>= g) := by
  match r, s with
  | .ok b, .ok c => exact hfg b c h
  | .error e, .error f => exact h

theorem Alike.map_left {R : δ → γ → Prop} {f : β → δ} {r : Result β} {s : Result γ}
    (h : Alike (fun b c => R (f b) c) r s) : Alike R (r.map f) s := by
  match r, s with
  | .ok b, .ok c => exact h
  | .error e, .error f => exact h

theorem alike_inField (target : TypeName) {f g : String} (h : Text.sameName f g = true) (r : Result β) :
    Alike Eq (r.inField target f) (r.inField target g) := by
  cases r with
  | ok b => exact rfl
  | error e => exact Failure.alike_inField target h e

end Result

/-! ## Routines -/

namespace Operation

/-- The operations differ at most in the case of their names. -/
def Alike (a b : Operation) : Prop := ∃ name, Text.sameName name b.name = true ∧ a = { b with name := name }

theorem Alike.destination {a b : Operation} (h : a.Alike b) : a.destination = b.destination := by
  obtain ⟨name, -, rfl⟩ := h
  rfl

theorem Alike.symm {a b : Operation} (h : a.Alike b) : b.Alike a := by
  obtain ⟨name, hname, rfl⟩ := h
  exact ⟨b.name, Text.sameName_symm hname, rfl⟩

end Operation

/-- The plans differ at most in what their keys may differ in and in the case of names. -/
structure Plan.Alike (a b : Plan) : Prop where
  fingerprint : a.fingerprint.same b.fingerprint = true
  mode : a.mode = b.mode
  selected : a.selected = b.selected
  operations : List.Forall₂ Operation.Alike a.operations b.operations

theorem Plan.Alike.symm {a b : Plan} (h : a.Alike b) : b.Alike a where
  fingerprint := Fingerprint.same_symm h.fingerprint
  mode := h.mode.symm
  selected := h.selected.symm
  operations := (h.operations.imp fun _ _ hop => hop.symm).flip

/-- The routines have alike plans and the same functions. -/
structure RowRoutine.Alike {α : Type} (r s : RowRoutine α) : Prop where
  plan : r.plan.Alike s.plan
  body : r.body = s.body
  hook : r.hook = s.hook

theorem RowRoutine.Alike.symm {α : Type} {r s : RowRoutine α} (h : r.Alike s) : s.Alike r :=
  ⟨h.plan.symm, h.body.symm, h.hook.symm⟩

/-- The routines differ at most in what their keys may differ in. -/
structure ParameterRoutine.Alike {α : Type} (r s : ParameterRoutine α) : Prop where
  fingerprint : r.plan.fingerprint.same s.plan.fingerprint = true
  mode : r.plan.mode = s.plan.mode
  selected : r.plan.selected = s.plan.selected
  operations : r.plan.operations = s.plan.operations
  getters : r.getters = s.getters

theorem ParameterRoutine.Alike.symm {α : Type} {r s : ParameterRoutine α} (h : r.Alike s) : s.Alike r :=
  ⟨Fingerprint.same_symm h.fingerprint, h.mode.symm, h.selected.symm, h.operations.symm, h.getters.symm⟩

end RowBinding
