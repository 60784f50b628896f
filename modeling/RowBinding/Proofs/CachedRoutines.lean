import RowBinding.Proofs.Jobs
import RowBinding.Proofs.SharedRoutine
/-!
# Routines in the cache

The cache is sound when every routine in it is what its own key compiles to.  **A request leaves a sound cache sound,
and is answered by a routine that a key sharing it compiles to, or by the failure of compiling it afresh**
(`FunctionCache.perform_getOrCompile`).
-/
namespace RowBinding

variable {α β ε : Type}

namespace FunctionCache

/-- Every routine in the cache is good for its key. -/
def Sound (good : Fingerprint → ε → Prop) (c : FunctionCache ε) : Prop := ∀ e ∈ c.entries, good e.1 e.2.routine

variable {good : Fingerprint → ε → Prop} {kind : ε → Option β} {c : FunctionCache ε} {p : Fingerprint}

theorem sound_empty : Sound good (empty : FunctionCache ε) := fun e he => by cases he

theorem sound_reset : Sound good c.reset := fun e he => by cases he

theorem Sound.entry? (h : c.Sound good) {e : Published ε} (he : c.entry? p = some e) :
    ∃ q, q.same p = true ∧ good q e.routine := by
  obtain ⟨x, hx, rfl⟩ := Option.map_eq_some_iff.1 he
  have hsame := List.find?_some hx
  exact ⟨x.1, hsame, h x (List.mem_of_find?_eq_some hx)⟩

theorem Sound.find? (h : c.Sound good) {r : Published β} (hr : c.find? kind p = some r) :
    ∃ q e, q.same p = true ∧ good q e ∧ kind e = some r.routine := by
  obtain ⟨e, he, hr⟩ := Option.bind_eq_some_iff.1 hr
  obtain ⟨q, hq, hgood⟩ := h.entry? he
  obtain ⟨b, hb, rfl⟩ := Option.map_eq_some_iff.1 hr
  exact ⟨q, e.routine, hq, hgood, hb⟩

theorem Sound.publish (h : c.Sound good) {e : Published ε} (he : good p e.routine) : (c.publish p e).Sound good := by
  unfold FunctionCache.publish
  split
  · exact h
  · intro x hx
    rcases List.mem_append.1 hx with hx | hx
    · exact h x hx
    · rw [List.mem_singleton.1 hx]
      exact he

theorem find?_publish (hnone : c.entry? p = none) {e : Published ε} {b : β} (hb : kind e.routine = some b) :
    (c.publish p e).find? kind p = some ⟨e.serial, b⟩ := by
  have hentries : c.entries.find? (fun x => x.1.same p) = none := Option.map_eq_none_iff.1 hnone
  unfold FunctionCache.publish
  rw [hnone]
  simp only [FunctionCache.find?, FunctionCache.entry?, List.find?_append, hentries, List.find?_cons,
    Fingerprint.same_refl, Option.none_or, Option.map_some, Option.bind_some, ofKind?, hb]

theorem perform_get_some {j : Journaled (FunctionCache ε)} {r : Published β} (h : j.state.find? kind p = some r) :
    (get kind p).perform j =
      (.ok (some r), ⟨{ j.state with hits := j.state.hits + 1 }, j.log ++ [⟨.trace, "Cache hit for " ++ p.text⟩]⟩) := by
  unfold FunctionCache.get
  rw [Job.perform_bind, Job.perform_get]
  dsimp only
  rw [h]
  rfl

theorem perform_get_none {j : Journaled (FunctionCache ε)} (h : j.state.find? kind p = none) :
    (get kind p).perform j = (.ok none, j) := by
  unfold FunctionCache.get
  rw [Job.perform_bind, Job.perform_get]
  dsimp only
  rw [h]
  rfl

theorem perform_compileAndPublish_error {store : β → ε} {compile : Fingerprint → Result β} {e : Failure}
    (j : Journaled (FunctionCache ε)) (h : compile p = .error e) :
    (compileAndPublish kind store p compile).perform j =
      (.error e, ⟨j.state, j.log ++ [⟨.error, "Could not compile " ++ p.text ++ ": " ++ e.message⟩]⟩) := by
  unfold compileAndPublish
  rw [h]
  rfl

theorem perform_compileAndPublish_ok {store : β → ε} {compile : Fingerprint → Result β} {b : β}
    (j : Journaled (FunctionCache ε)) (hb : compile p = .ok b) (hnone : j.state.entry? p = none)
    (hstore : kind (store b) = some b) :
    (compileAndPublish kind store p compile).perform j = (.ok ⟨j.state.compilations + 1, b⟩,
      ⟨{ j.state with compilations := j.state.compilations + 1 }.publish p ⟨j.state.compilations + 1, store b⟩,
        j.log ++ [⟨.debug, "Compiled " ++ p.text⟩]⟩) := by
  have hfind := find?_publish (c := { j.state with compilations := j.state.compilations + 1 })
    (e := ⟨j.state.compilations + 1, store b⟩) hnone hstore
  unfold compileAndPublish
  rw [hb]
  simp only [Job.perform_bind, Job.perform_get, Job.perform_report, Job.perform_set]
  rw [hfind]
  rfl

/-! ### Requests -/

theorem perform_getOrCompile_some {store : β → ε} {compile : Fingerprint → Result β} {r : Published β}
    (j : Journaled (FunctionCache ε)) (h : j.state.find? kind p = some r) :
    (getOrCompile kind store p compile).perform j =
      (.ok r, ⟨{ j.state with hits := j.state.hits + 1 }, j.log ++ [⟨.trace, "Cache hit for " ++ p.text⟩]⟩) := by
  unfold getOrCompile
  rw [Job.perform_bind, perform_get_some h]
  rfl

theorem perform_getOrCompile_none {store : β → ε} {compile : Fingerprint → Result β} (j : Journaled (FunctionCache ε))
    (h : j.state.find? kind p = none) :
    (getOrCompile kind store p compile).perform j = (compileAndPublish kind store p compile).perform j := by
  unfold getOrCompile
  rw [Job.perform_bind, perform_get_none h]

/-- Nothing is stored where nothing of the kind is found: an entry of another kind could not be good for a key that
shares this one. -/
theorem Sound.entry?_eq_none (h : c.Sound good) (hkind : ∀ q e, q.same p = true → good q e → ∃ b, kind e = some b)
    (hfind : c.find? kind p = none) : c.entry? p = none := by
  cases hentry : c.entry? p with
  | none => rfl
  | some e =>
    obtain ⟨q, hq, he⟩ := h.entry? hentry
    obtain ⟨b, hb⟩ := hkind q e.routine hq he
    rw [FunctionCache.find?, hentry, Option.bind_some, ofKind?, hb] at hfind
    cases hfind

/-- **What a request for a routine does.** -/
theorem perform_getOrCompile (kind : ε → Option β) (store : β → ε) (p : Fingerprint) (compile : Fingerprint → Result β)
    {j : Journaled (FunctionCache ε)} (h : j.state.Sound good) (hstore : ∀ b, kind (store b) = some b)
    (hgood : ∀ b, compile p = .ok b → good p (store b))
    (hkind : ∀ q e, q.same p = true → good q e → ∃ b, kind e = some b) :
    ((getOrCompile kind store p compile).perform j).2.state.Sound good ∧
      ((∃ e, compile p = .error e ∧ ((getOrCompile kind store p compile).perform j).1 = .error e) ∨
        ∃ r q e, ((getOrCompile kind store p compile).perform j).1 = .ok r ∧ q.same p = true ∧ good q e ∧
          kind e = some r.routine) := by
  cases hfind : j.state.find? kind p with
  | some r =>
    rw [perform_getOrCompile_some j hfind]
    obtain ⟨q, e, hq, he, hr⟩ := h.find? hfind
    exact ⟨h, .inr ⟨r, q, e, rfl, hq, he, hr⟩⟩
  | none =>
    rw [perform_getOrCompile_none j hfind]
    cases hcompile : compile p with
    | error e =>
      rw [perform_compileAndPublish_error j hcompile]
      exact ⟨h, .inl ⟨e, rfl, rfl⟩⟩
    | ok b =>
      rw [perform_compileAndPublish_ok j hcompile (h.entry?_eq_none hkind hfind) (hstore b)]
      have hcounted : Sound good { j.state with compilations := j.state.compilations + 1 } := h
      refine ⟨hcounted.publish (hgood b hcompile), .inr ⟨_, p, store b, rfl, p.same_refl, ?_⟩⟩
      exact ⟨hgood b hcompile, hstore b⟩

end FunctionCache

/-! ## The routines of a mapper -/

/-- The routine is what its key compiles to. -/
def Routine.Compiled (schema : Schema α) (rules : Rules α) (p : Fingerprint) : Routine α → Prop
  | .row r => p.direction = .rowToObject ∧ RowRoutine.compile schema rules p = .ok r
  | .parameters r => p.direction = .objectToParameters ∧ ParameterRoutine.compile schema rules p = .ok r

namespace Mapper

/-- **Every routine in the cache is exactly what compiling its key under the present rules yields.** -/
def Fresh (m : Mapper α) : Prop := m.cache.Sound (Routine.Compiled m.schema m.rules)

/-- The mapper has these types and rules, and no routine of other ones. -/
structure Under (schema : Schema α) (rules : Rules α) (m : Mapper α) : Prop where
  schema_eq : m.schema = schema
  rules_eq : m.rules = rules
  fresh : m.Fresh

variable {schema : Schema α} {rules : Rules α}

theorem under_ofSettings (schema : Schema α) (s : Settings) : Under schema (.ofSettings s) (ofSettings schema s) :=
  ⟨rfl, rfl, FunctionCache.sound_empty⟩

theorem Under.sound {m : Mapper α} (h : Under schema rules m) : m.cache.Sound (Routine.Compiled schema rules) := by
  obtain ⟨rfl, rfl, hfresh⟩ := h
  exact hfresh

theorem Under.onCache {m : Mapper α} (h : Under schema rules m) {c : FunctionCache (Routine α)}
    (hc : c.Sound (Routine.Compiled schema rules)) : Under schema rules { m with cache := c } := by
  obtain ⟨rfl, rfl, -⟩ := h
  exact ⟨rfl, rfl, hc⟩

/-- The routine is what its own key compiles to. -/
def Own (schema : Schema α) (rules : Rules α) (r : RowRoutine α) : Prop :=
  RowRoutine.compile schema rules r.fingerprint = .ok r

/-- Two routines for one request: the one of a key that shares its own, and its own. -/
theorem alike_of_compiled {target : TypeName} {fields : List Field} {q : Fingerprint} {e : Routine α} {r : RowRoutine α}
    (hq : q.same (.rowToObject target fields) = true) (he : e.Compiled schema rules q) (hr : e.row? = some r) :
    ∃ s, RowRoutine.compile schema rules (.rowToObject target fields) = .ok s ∧ s.Alike r ∧ Own schema rules r := by
  cases e with
  | parameters s => cases hr
  | row s =>
    obtain rfl := Option.some.inj hr
    obtain ⟨t, ht, halike⟩ := RowRoutine.compile_same hq he.2
    have hown : Own schema rules s := by rw [Own, RowRoutine.compile_fingerprint he.2, he.2]
    exact ⟨t, ht, halike.symm, hown⟩

theorem parametersAlike_of_compiled {target source : TypeName} {fields : List Field} {q : Fingerprint} {e : Routine α}
    {r : ParameterRoutine α} (hq : q.same (.objectToParameters target source fields) = true)
    (he : e.Compiled schema rules q) (hr : e.parameters? = some r) :
    ∃ s, ParameterRoutine.compile schema rules (.objectToParameters target source fields) = .ok s ∧ s.Alike r := by
  cases e with
  | row s => cases hr
  | parameters s =>
    obtain rfl := Option.some.inj hr
    obtain ⟨t, ht, halike⟩ := ParameterRoutine.compile_same hq he.2
    exact ⟨t, ht, halike.symm⟩

/-- A request comes to a routine related to the compiled one, when all that shares the key is, or to the failure of
compiling. -/
theorem perform_onCache {R : β → β → Prop} (kind : Routine α → Option β) (store : β → Routine α) (p : Fingerprint)
    (compile : Fingerprint → Result β) (hstore : ∀ b, kind (store b) = some b)
    (hgood : ∀ b, compile p = .ok b → (store b).Compiled schema rules p)
    (hkind : ∀ q (e : Routine α), q.same p = true → e.Compiled schema rules q → ∃ b, kind e = some b)
    (halike : ∀ q (e : Routine α) b, q.same p = true → e.Compiled schema rules q → kind e = some b →
      ∃ c, compile p = .ok c ∧ R c b) {j : Journaled (Mapper α)} (hj : Under schema rules j.state) :
    Under schema rules ((onCache (FunctionCache.getOrCompile kind store p compile)).perform j).2.state ∧
      ((∃ e, compile p = .error e ∧
          ((onCache (FunctionCache.getOrCompile kind store p compile)).perform j).1 = .error e) ∨
        ∃ c s, compile p = .ok c ∧
          ((onCache (FunctionCache.getOrCompile kind store p compile)).perform j).1 = .ok s ∧ R c s.routine) := by
  obtain ⟨m, log⟩ := j
  obtain ⟨hsound, hresult⟩ :=
    FunctionCache.perform_getOrCompile kind store p compile (j := ⟨m.cache, log⟩) hj.sound hstore hgood hkind
  unfold onCache
  rw [Job.perform_onPart]
  refine ⟨hj.onCache hsound, hresult.imp_right ?_⟩
  rintro ⟨s, q, e, hs, hq, he, hb⟩
  obtain ⟨c, hc, hR⟩ := halike q e s.routine hq he hb
  exact ⟨c, s, hc, hs, hR⟩

/-- A request mirrors a compilation when what shares the key has routines alike to its own. -/
theorem onCache_mirrors {R : β → β → Prop} (kind : Routine α → Option β) (store : β → Routine α) (p : Fingerprint)
    (compile : Fingerprint → Result β) (hstore : ∀ b, kind (store b) = some b)
    (hgood : ∀ b, compile p = .ok b → (store b).Compiled schema rules p)
    (hkind : ∀ q (e : Routine α), q.same p = true → e.Compiled schema rules q → ∃ b, kind e = some b)
    (halike : ∀ q (e : Routine α) b, q.same p = true → e.Compiled schema rules q → kind e = some b →
      ∃ c, compile p = .ok c ∧ R c b) :
    Job.Mirrors (Under schema rules) (fun c (s : Published β) => R c s.routine) (compile p)
      (onCache (FunctionCache.getOrCompile kind store p compile)) := by
  intro j hj
  obtain ⟨hunder, hresult⟩ := perform_onCache kind store p compile hstore hgood hkind halike hj
  exact ⟨hunder, Result.alike_of_cases hresult⟩

/-- What is compiled for a key of a row is a row routine. -/
theorem row?_of_compiled {target : TypeName} {fields : List Field} :
    ∀ q (e : Routine α), q.same (.rowToObject target fields) = true → e.Compiled schema rules q → ∃ r, e.row? = some r
  | _, .row r, _, _ => ⟨r, rfl⟩
  | _, .parameters _, hq, ⟨hd, _⟩ => by
    obtain ⟨-, -, hd', -⟩ := Fingerprint.same_iff.1 hq
    cases hd.symm.trans hd'

/-- **A row routine that is asked for is alike to one compiled afresh.** -/
theorem compileRow_mirrors (target : TypeName) (fields : List Field) :
    Job.Mirrors (Under schema rules)
      (fun r (s : Published (RowRoutine α)) => r.Alike s.routine ∧ Own schema rules s.routine)
      (RowRoutine.compile schema rules (.rowToObject target fields)) (compileRow target fields) := by
  refine Job.Mirrors.get_bind ?_
  rintro m ⟨rfl, rfl, -⟩
  exact onCache_mirrors (R := fun r s => r.Alike s ∧ Own m.schema m.rules s) Routine.row? Routine.row _ _
    (fun _ => rfl) (fun r hr => ⟨rfl, hr⟩) row?_of_compiled fun q e r hq he hr => alike_of_compiled hq he hr

theorem compileParameters_onCache (target source : TypeName) (fields : List Field) {j : Journaled (Mapper α)}
    (hj : Under schema rules j.state) : (compileParameters target source fields).perform j =
      (onCache (FunctionCache.getOrCompile Routine.parameters? Routine.parameters
        (.objectToParameters target source fields) (ParameterRoutine.compile schema rules))).perform j := by
  rw [compileParameters, Job.perform_bind, Job.perform_get]
  dsimp only
  rw [hj.schema_eq, hj.rules_eq]

/-- What is compiled for a key of parameters is a parameter routine. -/
theorem parameters?_of_compiled {target source : TypeName} {fields : List Field} : ∀ q (e : Routine α),
    q.same (.objectToParameters target source fields) = true → e.Compiled schema rules q → ∃ r, e.parameters? = some r
  | _, .parameters r, _, _ => ⟨r, rfl⟩
  | _, .row _, hq, ⟨hd, _⟩ => by
    obtain ⟨-, -, hd', -⟩ := Fingerprint.same_iff.1 hq
    cases hd.symm.trans hd'

/-- **A parameter routine that is asked for is alike to one compiled afresh**, and where compiling fails the request
fails in the same way. -/
theorem perform_compileParameters (target source : TypeName) (fields : List Field) {j : Journaled (Mapper α)}
    (hj : Under schema rules j.state) :
    Under schema rules ((compileParameters target source fields).perform j).2.state ∧
      ((∃ e, ParameterRoutine.compile schema rules (.objectToParameters target source fields) = .error e ∧
          ((compileParameters target source fields).perform j).1 = .error e) ∨
        ∃ r s, ParameterRoutine.compile schema rules (.objectToParameters target source fields) = .ok r ∧
          ((compileParameters target source fields).perform j).1 = .ok s ∧ r.Alike s.routine) := by
  rw [compileParameters_onCache target source fields hj]
  exact perform_onCache Routine.parameters? Routine.parameters _ _ (fun _ => rfl) (fun r hr => ⟨rfl, hr⟩)
    parameters?_of_compiled (fun q e r hq he hr => parametersAlike_of_compiled hq he hr) hj

/-- What follows a request for a parameter routine, and needs no more of the routine than what it is alike to, follows
the compilation. -/
theorem perform_compileParameters_bind {target source : TypeName} {fields : List Field}
    {f : ParameterRoutine α → Result β} {next : Published (ParameterRoutine α) → Job (Mapper α) β}
    (hnext : ∀ r s i, r.Alike s.routine → Under schema rules i.state →
      Under schema rules ((next s).perform i).2.state ∧ ((next s).perform i).1 = f r)
    {j : Journaled (Mapper α)} (hj : Under schema rules j.state) :
    Under schema rules ((compileParameters target source fields >>= next).perform j).2.state ∧
      ((compileParameters target source fields >>= next).perform j).1 =
        (ParameterRoutine.compile schema rules (.objectToParameters target source fields) >>= f) := by
  obtain ⟨hunder, hresult⟩ := perform_compileParameters target source fields hj
  rw [Job.perform_bind]
  generalize (compileParameters target source fields).perform j = ran at hunder hresult
  obtain ⟨result, i⟩ := ran
  rcases hresult with ⟨e, he, rfl⟩ | ⟨r, s, hr, rfl, halike⟩
  · rw [he]
    exact ⟨hunder, rfl⟩
  · rw [hr]
    exact hnext r s i halike hunder

theorem compileParameters_mirrors (target source : TypeName) (fields : List Field) :
    Job.Mirrors (Under schema rules) (fun r (s : Published (ParameterRoutine α)) => r.Alike s.routine)
      (ParameterRoutine.compile schema rules (.objectToParameters target source fields))
      (compileParameters target source fields) := by
  intro j hj
  obtain ⟨hunder, hresult⟩ := perform_compileParameters target source fields hj
  exact ⟨hunder, Result.alike_of_cases hresult⟩

end Mapper

end RowBinding
