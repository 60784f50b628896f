import RowBinding.Proofs.ReaderRelations
import RowBinding.Proofs.SharedPlans
/-!
# Routines that shapes share

Two keys that share a routine get alike routines when each is compiled on its own (`RowRoutine.compile_same`), and
**alike routines read every row alike** (`RowRoutine.call_alike`).  A parameter routine does not even differ in the
names: it takes them from the members.
-/
namespace RowBinding

variable {α β γ : Type}

/-! ## Compiling -/

/-- A routine has the plan of its key, and the body of that plan. -/
theorem RowRoutine.compile_eq_ok {schema : Schema α} {rules : Rules α} {p : Fingerprint} {r : RowRoutine α}
    (hr : compile schema rules p = .ok r) :
    Plan.ofRow rules (schema p.target) p = .ok r.plan ∧ bodyOf (schema p.target) r.plan = .ok r.body := by
  obtain ⟨plan, hplan, hr⟩ := Result.bind_eq_ok_iff.1 hr
  obtain ⟨body, hbody, hr⟩ := Result.bind_eq_ok_iff.1 hr
  obtain rfl := Except.ok.inj hr
  exact ⟨hplan, hbody⟩

theorem RowRoutine.compile_fingerprint {schema : Schema α} {rules : Rules α} {p : Fingerprint} {r : RowRoutine α}
    (hr : compile schema rules p = .ok r) : r.fingerprint = p := by
  obtain ⟨a, -, hplan⟩ := Result.bind_eq_ok_iff.1 (compile_eq_ok hr).1
  rw [fingerprint, ← Except.ok.inj hplan]

theorem RowRoutine.compile_hook {schema : Schema α} {rules : Rules α} {p : Fingerprint} {r : RowRoutine α}
    (hr : compile schema rules p = .ok r) : r.hook = rules.objectHook? p.target := by
  obtain ⟨plan, -, hr⟩ := Result.bind_eq_ok_iff.1 hr
  obtain ⟨body, -, hr⟩ := Result.bind_eq_ok_iff.1 hr
  rw [← Except.ok.inj hr]

/-- **Compiled on its own, each of two keys that share a routine gets an alike one.** -/
theorem RowRoutine.compile_same {schema : Schema α} {rules : Rules α} {p q : Fingerprint} (h : p.same q = true)
    {r : RowRoutine α} (hr : compile schema rules p = .ok r) :
    ∃ s, compile schema rules q = .ok s ∧ r.Alike s := by
  obtain ⟨plan, hplan, hr⟩ := Result.bind_eq_ok_iff.1 hr
  obtain ⟨body, hbody, hr⟩ := Result.bind_eq_ok_iff.1 hr
  obtain ⟨ht, -, -, -⟩ := Fingerprint.same_iff.1 h
  obtain ⟨plan', hplan', halike⟩ := (Plan.kindred_ofRow h _).exists_of_ok hplan
  have hbody' : bodyOf (schema q.target) plan' = .ok body := by
    rw [← ht]
    unfold bodyOf at hbody ⊢
    rw [← halike.selected]
    cases hd : schema p.target with
    | scalar s => rwa [hd] at hbody
    | entity e =>
      rw [hd] at hbody
      dsimp only at hbody ⊢
      split at hbody
      · exact hbody
      · cases hbody
  rw [ht] at hplan'
  refine ⟨⟨plan', body, rules.objectHook? q.target⟩, ?_, ?_⟩
  · exact Result.bind_eq_ok_iff.2 ⟨plan', hplan', Result.bind_eq_ok_iff.2 ⟨body, hbody', rfl⟩⟩
  · rw [← Except.ok.inj hr, ← ht]
    exact ⟨halike, rfl, rfl⟩

theorem ParameterRoutine.compile_same {schema : Schema α} {rules : Rules α} {p q : Fingerprint} (h : p.same q = true)
    {r : ParameterRoutine α} (hr : compile schema rules p = .ok r) :
    ∃ s, compile schema rules q = .ok s ∧ r.Alike s := by
  obtain ⟨plan, hplan, hr⟩ := Result.bind_eq_ok_iff.1 hr
  obtain ⟨ht, hs, -, -⟩ := Fingerprint.same_iff.1 h
  obtain ⟨plan', hplan', rfl, rfl⟩ := (Plan.kindred_ofParameters h _ _).exists_of_ok hplan
  rw [ht, hs] at hplan'
  refine ⟨_, Result.bind_eq_ok_iff.2 ⟨_, hplan', rfl⟩, ?_⟩
  rw [← Except.ok.inj hr, ← ht]
  exact ⟨h, rfl, rfl, rfl, rfl⟩

/-! ## Running -/

namespace RowReader

/-- The readers deliver alike results from the same values. -/
def Alike (m n : RowReader β) : Prop := ∀ values, Result.Alike Eq (m values) (n values)

theorem alike_refl (m : RowReader β) : Alike m m := fun values => Result.alike_refl (fun _ => rfl) (m values)

theorem Alike.bind {m n : RowReader β} {k l : β → RowReader γ} (h : Alike m n) (hkl : ∀ b, Alike (k b) (l b)) :
    Alike (m >>= k) (n >>= l) := by
  intro values
  refine Result.Alike.bind (h values) fun x y hxy => ?_
  rw [← hxy]
  exact hkl x.1 x.2

theorem composes_alike : Composes Alike := ⟨fun r => alike_refl (liftM r), Alike.bind⟩

end RowReader

namespace RowRoutine

/-- What is done with the value of an operation does not depend on its name, only the failures show it. -/
theorem atField_alike (target : TypeName) {a b : Operation} (h : a.Alike b) (use : Value → Result β) :
    RowReader.Alike (atField target a use) (atField target b use) := by
  obtain ⟨name, hname, rfl⟩ := h
  exact fun values => Result.alike_inField target hname _

theorem produce_alike {a b : Plan} (h : a.Alike b) (body : RowBody α) :
    RowReader.Alike (produce a body) (produce b body) := by
  obtain ⟨ht, -, -, -⟩ := Fingerprint.same_iff.1 h.fingerprint
  refine RowReader.composes_alike.produce ht (fun _ => Failure.Alike.plan h.fingerprint) ?_ body
  exact h.operations.imp fun _ _ hop => ⟨hop.destination, atField_alike _ hop⟩

/-- The hook of the type sees the object when it is complete. -/
def finish (r : RowRoutine α) (object : α) : Result α :=
  match r.hook with
  | some hook => hook object
  | none => .ok object

theorem call_eq (r : RowRoutine α) (row : Row) : r.call row =
    if row.values.length = r.fingerprint.fields.length then
      produce r.plan r.body row.values >>= fun built => r.finish built.1
    else .error (r.fingerprint.shapeMismatch (.rowSize row.values.length r.fingerprint.fields.length)) := by
  unfold call
  by_cases hlen : row.values.length = r.fingerprint.fields.length
  · simp only [hlen, ne_eq, not_true_eq_false, if_false, if_true]
    rfl
  · simp only [hlen, ne_eq, not_false_eq_true, if_false, if_true]
    rfl

/-- **Alike routines read every row alike**: they build the same object, or fail in the same way. -/
theorem call_alike {r s : RowRoutine α} (h : r.Alike s) (row : Row) : Result.Alike Eq (r.call row) (s.call row) := by
  obtain ⟨-, -, -, hf⟩ := Fingerprint.same_iff.1 h.plan.fingerprint
  have hlen : r.fingerprint.fields.length = s.fingerprint.fields.length := hf.length_eq
  have hfinish : r.finish = s.finish := by
    funext object
    rw [finish, finish, h.hook]
  rw [call_eq, call_eq, hlen]
  split
  · rw [← h.body, hfinish]
    refine (produce_alike h.plan r.body row.values).bind fun x y hxy => ?_
    rw [hxy]
    exact Result.alike_refl (fun _ => rfl) _
  · exact .shape h.plan.fingerprint _

end RowRoutine

theorem ParameterRoutine.call_alike {r s : ParameterRoutine α} (h : r.Alike s) (object : α) :
    r.call object = s.call object := by
  obtain ⟨ht, -, -, -⟩ := Fingerprint.same_iff.1 h.fingerprint
  have ht' : r.fingerprint.target = s.fingerprint.target := ht
  rw [call, call, ht', h.getters, h.operations]

end RowBinding
