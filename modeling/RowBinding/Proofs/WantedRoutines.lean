import RowBinding.Proofs.Blame
import RowBinding.Proofs.CacheRuns
import RowBinding.Proofs.KeptRoutine
/-!
# Routines that are wanted

A mapper is asked for routines of two kinds and keeps both in one cache.  **What stands under a key is of the kind that
the key is for** (`Mapper.Under.kind_of_entry?`), so a routine that is wanted is found, or compiled and published, or
its compilation fails (`Mapper.obtain_requested`); it never comes upon a routine of the other kind.
-/
namespace RowBinding

variable {α : Type}

namespace Routine

/-- The routines that read rows. -/
def rowKind : RoutineKind (Routine α) where
  Routine := RowRoutine α
  view := row?
  store := row
  view_eq_some e r := by cases e <;> simp [row?]

/-- The routines that read objects. -/
def parametersKind : RoutineKind (Routine α) where
  Routine := ParameterRoutine α
  view := parameters?
  store := parameters
  view_eq_some e r := by cases e <;> simp [parameters?]

end Routine

/-- What a mapper can be asked to compile. -/
inductive Wanted where
  | row (target : TypeName) (fields : List Field)
  | parameters (target source : TypeName) (fields : List Field)

namespace Wanted

def key : Wanted → Fingerprint
  | row target fields => .rowToObject target fields
  | parameters target source fields => .objectToParameters target source fields

def kind : Wanted → RoutineKind (Routine α)
  | row .. => Routine.rowKind
  | parameters .. => Routine.parametersKind

def compile (schema : Schema α) (rules : Rules α) : (w : Wanted) → Fingerprint → Result (w.kind (α := α)).Routine
  | row .., p => RowRoutine.compile schema rules p
  | parameters .., p => ParameterRoutine.compile schema rules p

variable {schema : Schema α} {rules : Rules α} {w : Wanted} {p : Fingerprint}

/-- What is compiled for a key that the wanted one shares is of the wanted kind, and is what is wanted for that key. -/
theorem exists_of_compiled (hp : p.same w.key = true) {e : Routine α} (he : e.Compiled schema rules p) :
    ∃ r, e = w.kind.store r ∧ w.compile schema rules p = .ok r := by
  -- keys that share a routine have one direction, so the other two cases do not come up
  obtain ⟨-, -, hdirection, -⟩ := Fingerprint.same_iff.1 hp
  cases w with
  | row target fields =>
    cases e with
    | row r => exact ⟨r, rfl, he.2⟩
    | parameters r => cases he.1.symm.trans hdirection
  | parameters target source fields =>
    cases e with
    | row r => cases he.1.symm.trans hdirection
    | parameters r => exact ⟨r, rfl, he.2⟩

theorem blames_of_compile {e : Failure} (h : w.compile schema rules p = .error e) : e.Blames p := by
  cases w with
  | row target fields => exact RowRoutine.blames_of_compile h
  | parameters target source fields => exact ParameterRoutine.blames_of_compile h

end Wanted

namespace Mapper

/-- Asks for a routine.  It is shown as it is stored. -/
def obtain : Wanted → Job (Mapper α) (Published (Routine α))
  | .row target fields => do return (← compileRow target fields).map .row
  | .parameters target source fields => do return (← compileParameters target source fields).map .parameters

variable {schema : Schema α} {rules : Rules α} {w : Wanted}

def request (schema : Schema α) (rules : Rules α) (w : Wanted) :
    Job (FunctionCache (Routine α)) (Published (w.kind (α := α)).Routine) :=
  FunctionCache.getOrCompile w.kind.view w.kind.store w.key (w.compile schema rules)

theorem perform_obtain (w : Wanted) {j : Journaled (Mapper α)} (hj : Under schema rules j.state) :
    (obtain w).perform j =
      let asked := (request schema rules w).perform ⟨j.state.cache, j.log⟩
      (asked.1.map (Published.map w.kind.store), ⟨{ j.state with cache := asked.2.state }, asked.2.log⟩) := by
  cases w with
  | row target fields =>
    rw [obtain, Job.perform_returning, perform_compileRow target fields hj, onCache, Job.perform_onPart]
    rfl
  | parameters target source fields =>
    rw [obtain, Job.perform_returning, compileParameters_onCache target source fields hj, onCache, Job.perform_onPart]
    rfl

theorem under_obtain (w : Wanted) {j : Journaled (Mapper α)} (hj : Under schema rules j.state) :
    Under schema rules ((obtain w).perform j).2.state := by
  cases w with
  | row target fields =>
    rw [obtain, Job.perform_returning]
    exact (compileRow_mirrors target fields j hj).1
  | parameters target source fields =>
    rw [obtain, Job.perform_returning]
    exact (perform_compileParameters target source fields hj).1

/-- **What stands under a key is of the kind that the key is for**, and is what a key that shares it compiles to. -/
theorem Under.kind_of_entry? {m : Mapper α} (h : Under schema rules m) {e : Published (Routine α)}
    (he : m.cache.entry? w.key = some e) :
    ∃ p r, p.same w.key = true ∧ e.routine = w.kind.store r ∧ w.compile schema rules p = .ok r := by
  obtain ⟨p, hp, hcompiled⟩ := h.sound.entry? he
  obtain ⟨r, hr, hcompile⟩ := Wanted.exists_of_compiled hp hcompiled
  exact ⟨p, r, hp, hr, hcompile⟩

/-- What a request for a wanted routine can do: a routine of the other kind is never in its way. -/
inductive Obtained (schema : Schema α) (rules : Rules α) (w : Wanted) (c : FunctionCache (Routine α)) :
    Result (Published (Routine α)) → FunctionCache (Routine α) → Prop
  | found {e : Published (Routine α)} (h : c.entry? w.key = some e) :
    Obtained schema rules w c (.ok e) { c with hits := c.hits + 1 }
  | failed {e : Failure} (hentry : c.entry? w.key = none) (h : w.compile schema rules w.key = .error e) :
    Obtained schema rules w c (.error e) c
  | published {r : (w.kind (α := α)).Routine} (hentry : c.entry? w.key = none)
    (h : w.compile schema rules w.key = .ok r) :
    Obtained schema rules w c (.ok ⟨c.compilations + 1, w.kind.store r⟩)
      ⟨c.entries ++ [(w.key, ⟨c.compilations + 1, w.kind.store r⟩)], c.compilations + 1, c.hits⟩

namespace Obtained

variable {c d : FunctionCache (Routine α)} {result : Result (Published (Routine α))}

theorem wellKept (h : Obtained schema rules w c result d) (hc : c.WellKept) : d.WellKept := by
  cases h with
  | found => exact hc.counted _
  | failed => exact hc
  | published hentry => exact hc.published hentry _

theorem of_ok {r : Published (Routine α)} (h : Obtained schema rules w c (.ok r) d) :
    d.entry? w.key = some r ∧ d.hits + d.compilations = c.hits + c.compilations + 1 := by
  cases h with
  | found he => exact ⟨he, Nat.succ_add _ _⟩
  | published hentry => exact ⟨FunctionCache.entry?_publish hentry _ _ _, rfl⟩

theorem of_error {e : Failure} (h : Obtained schema rules w c (.error e) d) :
    w.compile schema rules w.key = .error e ∧ d = c := by
  cases h with
  | failed _ he => exact ⟨he, rfl⟩

theorem of_entry? {e : Published (Routine α)} (h : Obtained schema rules w c result d) (he : c.entry? w.key = some e) :
    result = .ok e := by
  cases h with
  | found he' => exact congrArg Except.ok (Option.some.inj (he'.symm.trans he))
  | failed hentry _ => cases hentry.symm.trans he
  | published hentry _ => cases hentry.symm.trans he

end Obtained

/-- **A routine that is wanted is found, or compiled and published, or its compilation fails.** -/
theorem obtained (w : Wanted) {j : Journaled (Mapper α)} (hj : Under schema rules j.state) :
    ∃ d log, ((obtain w).perform j).2 = ⟨{ j.state with cache := d }, log⟩ ∧
      Obtained schema rules w j.state.cache ((obtain w).perform j).1 d := by
  have hrequest := FunctionCache.requested w.kind.view w.kind.store w.key (w.compile schema rules) w.kind.view_store
    (⟨j.state.cache, j.log⟩ : Journaled (FunctionCache (Routine α)))
  -- what rules out that a routine of the other kind has the place
  have hkind : ∀ e, j.state.cache.entry? w.key = some e → w.kind.view e.routine ≠ none := by
    intro e he hview
    obtain ⟨p, r, -, hr, -⟩ := hj.kind_of_entry? he
    rw [hr, w.kind.view_store] at hview
    cases hview
  rw [perform_obtain w hj]
  refine ⟨_, _, rfl, ?_⟩
  unfold request
  dsimp only
  generalize (FunctionCache.getOrCompile w.kind.view w.kind.store w.key (w.compile schema rules)).perform
    ⟨j.state.cache, j.log⟩ = asked at hrequest ⊢
  obtain ⟨result, d, log⟩ := asked
  dsimp only at hrequest ⊢
  cases hrequest with
  | found hfind =>
    obtain ⟨e, he, hr⟩ := Option.bind_eq_some_iff.1 hfind
    obtain ⟨r, hview, rfl⟩ := Option.map_eq_some_iff.1 hr
    refine .found (he.trans (congrArg some ?_))
    rw [Published.map, ← w.kind.eq_store _ _ hview]
  | failed hfind h =>
    rcases FunctionCache.find?_eq_none hfind with hentry | ⟨e, hentry, hview⟩
    · exact .failed hentry h
    · exact absurd hview (hkind e hentry)
  | published hentry h => exact .published hentry h
  | foreign hentry hview _ => exact absurd hview (hkind _ hentry)

/-- **What is obtained is compiled**: for the wanted key, or for one that shares it. -/
theorem compiled_of_obtain {j : Journaled (Mapper α)} (hj : Under schema rules j.state) {s : Published (Routine α)}
    (h : ((obtain w).perform j).1 = .ok s) :
    ∃ p r, p.same w.key = true ∧ s.routine = w.kind.store r ∧ w.compile schema rules p = .ok r := by
  obtain ⟨d, log, hstate, hobtained⟩ := obtained w hj
  have hunder := under_obtain w hj
  rw [hstate] at hunder
  rw [h] at hobtained
  exact hunder.kind_of_entry? hobtained.of_ok.1

theorem blames_of_obtain {j : Journaled (Mapper α)} (hj : Under schema rules j.state) {e : Failure}
    (h : ((obtain w).perform j).1 = .error e) : e.Blames w.key := by
  obtain ⟨d, log, -, hobtained⟩ := obtained w hj
  rw [h] at hobtained
  exact w.blames_of_compile hobtained.of_error.1

end Mapper

end RowBinding
