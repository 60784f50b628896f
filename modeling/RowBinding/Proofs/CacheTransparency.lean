import RowBinding.Proofs.CachedRoutines
import RowBinding.Proofs.Requests
/-!
# The cache cannot be seen

A change of the rules that is accepted drops the routines, and a refused one leaves the rules, so the routines in the
cache are always those of the present rules.  **Whatever is asked of a mapper, in whatever order, each answer is the one
that the present rules give to the request alone**, but for the case of the labels that failures and routines quote
(`Mapper.serveAll_alike`).  Only a reading that is asked for its rows between other requests holds a routine of its own,
and so goes by earlier rules as long as the shape stays (`Mapper.respondAll_alike`).
-/
namespace RowBinding

variable {α β γ : Type}

namespace Rules

variable {schema : Schema α} {rules : Rules α} {remembered : Option (Remembered α)}

theorem forNext_eq (h : ∀ k, remembered = some k → k.rules = rules) (p : Fingerprint) :
    rules.forNext remembered p = rules := by
  cases remembered with
  | none => rfl
  | some k =>
    unfold forNext
    dsimp only
    split
    · exact h k rfl
    · rfl

theorem afterRow_rules (h : ∀ k, remembered = some k → k.rules = rules) {p : Fingerprint} :
    ∀ k, rules.afterRow schema remembered p = some k → k.rules = rules := by
  intro k hk
  unfold afterRow at hk
  split at hk
  · rw [← Option.some.inj hk]
    exact forNext_eq h p
  · exact h k hk

end Rules

namespace Mapper

variable {schema : Schema α} {rules : Rules α}

/-! ## Reading -/

theorem attempted_error (e : Failure) : Result.attempted (.error e : Result β) =
    if e.isAbort then .error e else .ok (.error e) := rfl

theorem eq_of_attempted {r x : Result β} (h : r.attempted = .ok x) : r = x := by
  cases r with
  | ok b => exact Except.ok.inj h
  | error e =>
    rw [attempted_error] at h
    split at h
    · cases h
    · exact Except.ok.inj h

theorem attempted_bind (r : Result β) (f : β → Result γ) : Result.attempted (r >>= f) =
    Result.attempted r >>= fun x => match x with
      | .ok b => Result.attempted (f b)
      | .error e => .ok (.error e) := by
  cases r with
  | ok b => rfl
  | error e =>
    show Result.attempted (.error e : Result γ) = Result.attempted (.error e : Result β) >>= _
    rw [attempted_error, attempted_error]
    cases e.isAbort <;> rfl

theorem perform_attempt (job : Job (Mapper α) β) (j : Journaled (Mapper α)) :
    (attempt job).perform j = ((job.perform j).1.attempted, (job.perform j).2) := by
  unfold attempt
  rw [Job.perform_tryCatch, Job.perform_bind]
  generalize job.perform j = ran
  match ran with
  | (.ok b, i) => rfl
  | (.error e, i) =>
    dsimp only
    rw [attempted_error]
    cases e.isAbort <;> rfl

theorem attempt_bind (job : Job (Mapper α) β) (next : β → Job (Mapper α) γ) : attempt (job >>= next) =
    attempt job >>= fun x => match x with
      | .ok b => attempt (next b)
      | .error e => pure (.error e) := by
  refine Job.ext fun j => ?_
  rw [perform_attempt, Job.perform_bind, Job.perform_bind, perform_attempt]
  generalize job.perform j = ran
  match ran with
  | (.ok b, i) => exact (perform_attempt (next b) i).symm
  | (.error e, i) =>
    dsimp only
    rw [attempted_error, attempted_error]
    cases e.isAbort <;> rfl

theorem attempt_mirrors {I : Mapper α → Prop} {R : β → γ → Prop} {r : Result β} {job : Job (Mapper α) γ}
    (h : Job.Mirrors I R r job) : Job.Mirrors I (Result.Alike R) r.attempted (attempt job) := by
  intro j hj
  obtain ⟨hi, hr⟩ := h j hj
  rw [perform_attempt]
  refine ⟨hi, ?_⟩
  generalize (job.perform j).1 = s at hr
  match r, s with
  | .ok b, .ok c => exact hr
  | .error e, .error f =>
    rw [attempted_error, attempted_error, Failure.Alike.isAbort hr]
    cases f.isAbort <;> exact hr

/-- The routine is what the remembered shape compiles to under the remembered rules, but for the case of labels. -/
def Recalls (schema : Schema α) (remembered : Rules.Remembered α) (r : RowRoutine α) : Prop :=
  Own schema remembered.rules r ∧ r.fingerprint.same remembered.shape = true

section Rows

variable {remembered : Option (Rules.Remembered α)} {held : Option (RowRoutine α)}

/-- **The routine for the next row of a reading** is compiled under the rules that the reading goes by. -/
theorem routineFor_mirrors (target : TypeName) (h : Option.Rel (Recalls schema) remembered held) (row : Row) :
    let p := .rowToObject target row.fields
    Job.Mirrors (Under schema rules) (fun r s => r.Alike s ∧ Own schema (rules.forNext remembered p) s)
      (RowRoutine.compile schema (rules.forNext remembered p) p) (routineFor target held row) := by
  intro p
  have hnew : Job.Mirrors (Under schema rules) (fun r s => r.Alike s ∧ Own schema rules s)
      (RowRoutine.compile schema rules p) (do return (← compileRow target row.fields).routine) :=
    (compileRow_mirrors target row.fields).returning fun _ _ h => h
  cases h with
  | none => exact hnew
  | @some k r hrecalls =>
    obtain ⟨hown, hshape⟩ := hrecalls
    unfold routineFor Rules.forNext
    dsimp only
    by_cases hp : k.shape.same p = true
    · have hsame : r.fingerprint.same p = true := Fingerprint.same_trans hshape hp
      obtain ⟨s, hs, halike⟩ := RowRoutine.compile_same hsame hown
      rw [if_pos hp, if_pos hsame, hs]
      exact Job.Mirrors.pure ⟨halike.symm, hown⟩
    · have hother : ¬ r.fingerprint.same p = true := fun hsame =>
        hp (Fingerprint.same_trans (Fingerprint.same_symm hshape) hsame)
      rw [if_neg hp, if_neg hother]
      exact hnew

/-- **The next row of a reading** is read under the rules that the reading goes by. -/
theorem readNext_mirrors (target : TypeName) (h : Option.Rel (Recalls schema) remembered held) (row : Row) :
    let p := .rowToObject target row.fields
    Job.Mirrors (Under schema rules)
      (fun a x => Result.Alike Eq a x.1 ∧ Option.Rel (Recalls schema) (rules.afterRow schema remembered p) x.2)
      (Result.attempted ((rules.forNext remembered p).read schema target row)) (readNext target held row) := by
  intro p
  unfold Rules.read readNext
  rw [attempted_bind]
  refine (attempt_mirrors (routineFor_mirrors target h row)).knowing.bind ?_
  rintro a b ⟨hattempted, hab⟩
  have hcompile := eq_of_attempted hattempted
  match a, b with
  | .error e, .error f =>
    refine Job.Mirrors.pure ⟨hab, ?_⟩
    rw [Rules.afterRow, hcompile]
    exact h
  | .ok r, .ok s =>
    obtain ⟨halike, hown⟩ := hab
    have hcall := attempt_mirrors (Job.Mirrors.ofResult (I := Under schema rules) (RowRoutine.call_alike halike row))
    refine hcall.returning fun x y hxy => ⟨hxy, ?_⟩
    rw [Rules.afterRow, hcompile]
    have hshape : s.fingerprint.same r.fingerprint = true := halike.symm.plan.fingerprint
    rw [RowRoutine.compile_fingerprint hcompile] at hshape
    exact .some ⟨hown, hshape⟩

/-- Rows one after the other, by a reading that remembers no rules but those in force. -/
theorem readAllFrom_mirrors (target : TypeName) (rows : List Row) (h : Option.Rel (Recalls schema) remembered held)
    (hrules : ∀ k, remembered = some k → k.rules = rules) :
    Job.Mirrors (Under schema rules) (List.Forall₂ (Result.Alike Eq)) (rules.readAll schema target rows)
      (readAllFrom target held rows) := by
  unfold Rules.readAll
  induction rows generalizing remembered held with
  | nil => exact Job.Mirrors.pure .nil
  | cons row rows ih =>
    unfold readAllFrom
    rw [List.mapM_cons]
    have hnext : Job.Mirrors (Under schema rules) _ _ (readNext target held row) := readNext_mirrors target h row
    rw [Rules.forNext_eq hrules] at hnext
    refine hnext.bind fun first x hx => ?_
    refine (ih hx.2 (Rules.afterRow_rules hrules)).bind fun rest rest' hrest => ?_
    exact Job.Mirrors.pure (.cons hx.1 hrest)

end Rows

theorem readAll_mirrors (target : TypeName) (rows : List Row) :
    Job.Mirrors (Under schema rules) (List.Forall₂ (Result.Alike Eq)) (rules.readAll schema target rows)
      (readAll target rows) :=
  readAllFrom_mirrors target rows .none fun _ h => by cases h

theorem read_mirrors (target : TypeName) (row : Row) :
    Job.Mirrors (Under schema rules) Eq (rules.read schema target row) (read target row) := by
  refine (compileRow_mirrors target row.fields).bind fun r s hrs => ?_
  exact Job.Mirrors.ofResult (RowRoutine.call_alike hrs.1 row)

/-! ## Binding and staging -/

theorem perform_bindToFields (command : Command) (target : TypeName) (object : α) (fields : List Field)
    {j : Journaled (Mapper α)} (hj : Under schema rules j.state) :
    Under schema rules ((bindToFields command target object fields).perform j).2.state ∧
      ((bindToFields command target object fields).perform j).1 =
        rules.bindToFields schema command target object fields := by
  unfold Rules.bindToFields bindToFields parametersFor
  rw [bind_assoc]
  refine perform_compileParameters_bind (fun r s i halike hi => ?_) hj
  rw [Job.perform_bind, Job.perform_ofResult, ParameterRoutine.call_alike halike]
  cases s.routine.call object <;> exact ⟨hi, rfl⟩

theorem bindToFields_mirrors (command : Command) (target : TypeName) (object : α) (fields : List Field) :
    Job.Mirrors (Under schema rules) Eq (rules.bindToFields schema command target object fields)
      (bindToFields command target object fields) :=
  Job.Mirrors.of_eq fun _ hj => perform_bindToFields command target object fields hj

theorem perform_ofEntities (target : TypeName) (objects : List α) (store : List Field) {j : Journaled (Mapper α)}
    (hj : Under schema rules j.state) :
    Under schema rules ((BulkTable.ofEntities target objects store).perform j).2.state ∧
      ((BulkTable.ofEntities target objects store).perform j).1 = rules.tableOf schema target objects store := by
  unfold Rules.tableOf BulkTable.ofEntities
  refine perform_compileParameters_bind (fun r s i halike hi => ?_) hj
  have hrow : BulkTable.rowOf r = BulkTable.rowOf s.routine :=
    funext fun object => by rw [BulkTable.rowOf, BulkTable.rowOf, ParameterRoutine.call_alike halike]
  have hcolumns : BulkTable.columns store r.plan = BulkTable.columns store s.routine.plan := by
    rw [BulkTable.columns, BulkTable.columns, halike.operations]
  rw [hrow, hcolumns, Job.perform_bind, Job.perform_ofResult]
  cases objects.mapM (BulkTable.rowOf s.routine) <;> exact ⟨hi, rfl⟩

theorem ofEntities_mirrors (target : TypeName) (objects : List α) (store : List Field) :
    Job.Mirrors (Under schema rules) Eq (rules.tableOf schema target objects store)
      (BulkTable.ofEntities target objects store) :=
  Job.Mirrors.of_eq fun _ hj => perform_ofEntities target objects store hj

/-! ## Changing the rules -/

/-- **Dropping the routines leaves the counters**, and no routines: if there were none, none had to be dropped. -/
theorem perform_dropRoutines (j : Journaled (Mapper α)) : (dropRoutines.perform j).1 = .ok () ∧
    (dropRoutines.perform j).2.state = { j.state with cache := j.state.cache.reset } := by
  unfold dropRoutines
  rw [Job.perform_bind, Job.perform_get]
  dsimp only
  split
  · exact ⟨rfl, rfl⟩
  · have hentries : j.state.cache.entries = [] := List.length_eq_zero_iff.1 (Nat.eq_zero_of_not_pos ‹_›)
    refine ⟨rfl, ?_⟩
    rw [FunctionCache.reset, ← hentries]
    rfl

/-- A refused change of the rules leaves the mapper and its log as they are; after any other one it has the changed rules
and no routines, and its counters are those from before. -/
theorem perform_updateRules (change : Rules α → Result (β × Rules α)) (j : Journaled (Mapper α)) :
    match change j.state.rules with
    | .error e => (updateRules change).perform j = (.error e, j)
    | .ok (b, next) => ((updateRules change).perform j).1 = .ok b ∧ ((updateRules change).perform j).2.state =
        { j.state with rules := next, cache := j.state.cache.reset } := by
  unfold updateRules
  rw [Job.perform_bind, Job.perform_get]
  dsimp only
  rw [Job.perform_bind, Job.perform_ofResult]
  cases change j.state.rules with
  | error e => rfl
  | ok changed =>
    obtain ⟨hdone, hstate⟩ := perform_dropRoutines ⟨{ j.state with rules := changed.2 }, j.log⟩
    dsimp only
    rw [Job.perform_bind, Job.perform_set]
    dsimp only
    rw [Job.perform_returning (f := fun _ => changed.1), hdone]
    exact ⟨rfl, hstate⟩

/-- What a change of the rules does: an accepted one is in force afterwards, a refused one has no effect. -/
theorem updateRules_under (change : Rules α → Result (β × Rules α)) {j : Journaled (Mapper α)}
    (hj : Under schema rules j.state) :
    (∃ b next, change rules = .ok (b, next) ∧ ((updateRules change).perform j).1 = .ok b ∧
        Under schema next ((updateRules change).perform j).2.state) ∨
      ∃ e, change rules = .error e ∧ (updateRules change).perform j = (.error e, j) := by
  have hperform := perform_updateRules change j
  rw [hj.rules_eq] at hperform
  cases hchange : change rules with
  | error e =>
    rw [hchange] at hperform
    exact .inr ⟨e, rfl, hperform⟩
  | ok changed =>
    rw [hchange] at hperform
    obtain ⟨hdone, hstate⟩ := hperform
    refine .inl ⟨changed.1, changed.2, rfl, hdone, ?_⟩
    rw [hstate]
    exact ⟨hj.schema_eq, rfl, FunctionCache.sound_reset⟩

theorem perform_changeRules (change : Rules α → Result (Rules α)) {j : Journaled (Mapper α)}
    (hj : Under schema rules j.state) :
    (∃ next, change rules = .ok next ∧ ((changeRules change).perform j).1 = .ok () ∧
        Under schema next ((changeRules change).perform j).2.state) ∨
      ∃ e, change rules = .error e ∧ (changeRules change).perform j = (.error e, j) := by
  have hupdate := updateRules_under (fun r => (change r).map fun s => ((), s)) hj
  cases hchange : change rules with
  | error e =>
    rw [hchange] at hupdate
    rcases hupdate with ⟨_, _, h, -⟩ | ⟨_, h, hdone⟩
    · cases h
    · cases h
      exact .inr ⟨e, rfl, hdone⟩
  | ok next =>
    rw [hchange] at hupdate
    rcases hupdate with ⟨_, _, h, hdone, hunder⟩ | ⟨_, h, -⟩
    · cases h
      exact .inl ⟨next, rfl, hdone, hunder⟩
    · cases h

/-! ## Requests -/

/-- The mapper answers a request as the rules alone do, and is left under the rules that they are left as. -/
def Serves (schema : Schema α) (rules : Rules α) (request : Request α) : Prop :=
  ∀ j, Under schema rules j.state →
    Result.Alike Answer.Alike (rules.serve schema request).1 ((serve request).perform j).1 ∧
      Under schema (rules.serve schema request).2 ((serve request).perform j).2.state

theorem serves_of_mirrors {request : Request α} {r : Result (Answer α)} (hr : rules.serve schema request = (r, rules))
    (h : Job.Mirrors (Under schema rules) Answer.Alike r (serve request)) : Serves schema rules request := by
  intro j hj
  rw [hr]
  exact (h j hj).symm

theorem alike_of_eq (make : β → Answer α) (b c : β) (h : b = c) : (make b).Alike (make c) := h ▸ .refl _

theorem serves_of_change {request : Request α} (change : Rules α → Result (Rules α))
    (hserve : serve request = do changeRules change; return .done)
    (hr : rules.serve schema request = rules.changed ((change rules).map fun next => (.done, next))) :
    Serves schema rules request := by
  intro j hj
  rw [hserve, hr]
  rw [Job.perform_bind]
  rcases perform_changeRules change hj with ⟨next, hchange, hdone, hunder⟩ | ⟨e, hchange, hdone⟩
  · rw [hchange]
    generalize (changeRules change).perform j = ran at hdone hunder
    obtain ⟨r, i⟩ := ran
    rw [show r = .ok () from hdone]
    exact ⟨.refl _, hunder⟩
  · rw [hchange, hdone]
    exact ⟨.refl e, hj⟩

theorem serves_removeValueHandler (owner : TypeName) (member : String) :
    Serves schema rules (.removeValueHandler owner member) := by
  intro j hj
  have hserve : rules.serve schema (.removeValueHandler owner member) =
      (.ok (.removed (rules.removeValueHandler owner member).1), (rules.removeValueHandler owner member).2) := rfl
  unfold serve removeValueHandler
  rw [hserve, Job.perform_bind]
  rcases updateRules_under (fun r => .ok (r.removeValueHandler owner member)) hj with
    ⟨found, next, hchange, hdone, hunder⟩ | ⟨e, hchange, -⟩
  · have hpair : rules.removeValueHandler owner member = (found, next) := Except.ok.inj hchange
    generalize (updateRules fun r : Rules α => .ok (r.removeValueHandler owner member)).perform j = ran at hdone hunder
    obtain ⟨r, i⟩ := ran
    rw [show r = .ok found from hdone, hpair]
    exact ⟨.refl _, hunder⟩
  · cases hchange

/-- **One request.** -/
theorem serves (schema : Schema α) (rules : Rules α) : ∀ request : Request α, Serves schema rules request
  | .read target row =>
    serves_of_mirrors rfl ((read_mirrors target row).map (alike_of_eq .object))
  | .readAll target rows =>
    serves_of_mirrors rfl ((readAll_mirrors target rows).map fun _ _ h => .objects h)
  | .bind command target object =>
    serves_of_mirrors rfl ((bindToFields_mirrors command target object []).map (alike_of_eq .command))
  | .bindToFields command target object fields =>
    serves_of_mirrors rfl ((bindToFields_mirrors command target object fields).map (alike_of_eq .command))
  | .compileRow target fields =>
    serves_of_mirrors rfl ((compileRow_mirrors target fields).map fun _ _ h => .rowRoutine h.1)
  | .compileParameters target source fields =>
    serves_of_mirrors rfl ((compileParameters_mirrors target source fields).map fun _ _ h => .parameterRoutine h)
  | .tableOf target objects store =>
    serves_of_mirrors rfl ((ofEntities_mirrors target objects store).map (alike_of_eq .table))
  | .setSettings s => serves_of_change (fun r => .ok { r with settings := s }) rfl rfl
  | .addValueHandler owner member handler force =>
    serves_of_change (·.addValueHandler owner member handler force) rfl rfl
  | .addObjectHook owner hook force => serves_of_change (·.addObjectHook owner hook force) rfl rfl
  | .addMemberStorage owner member storage force =>
    serves_of_change (·.addMemberStorage owner member storage force) rfl rfl
  | .addTypeStorage t storage force => serves_of_change (·.addTypeStorage t storage force) rfl rfl
  | .removeValueHandler owner member => serves_removeValueHandler owner member
  | .resetCache => by
    rintro ⟨m, log⟩ hm
    exact ⟨.refl _, hm.onCache FunctionCache.sound_reset⟩

/-- Requests one after the other, from any mapper whose routines are those of its rules. -/
theorem serveAll_under (requests : List (Request α)) {rules : Rules α} {j : Journaled (Mapper α)}
    (hj : Under schema rules j.state) :
    List.Forall₂ (Result.Alike Answer.Alike) (rules.serveAll schema requests).1 (serveAll requests j).1 ∧
      Under schema (rules.serveAll schema requests).2 (serveAll requests j).2.state := by
  induction requests generalizing rules j with
  | nil => exact ⟨.nil, hj⟩
  | cons request requests ih =>
    obtain ⟨hanswer, hnext⟩ := serves schema rules request j hj
    obtain ⟨hanswers, hlast⟩ := ih hnext
    exact ⟨.cons hanswer hanswers, hlast⟩

/-- A mapper that requests have led to has routines of its own rules only. -/
theorem under_serveAll (schema : Schema α) (s : Settings) (log : List LogRecord) (requests : List (Request α)) :
    Under schema (serveAll requests ⟨ofSettings schema s, log⟩).2.state.rules
      (serveAll requests ⟨ofSettings schema s, log⟩).2.state := by
  obtain ⟨-, hunder⟩ := serveAll_under (j := ⟨ofSettings schema s, log⟩) requests (under_ofSettings schema s)
  exact ⟨hunder.schema_eq, rfl, hunder.fresh⟩

theorem rules_serveAll (schema : Schema α) (s : Settings) (log : List LogRecord) (requests : List (Request α)) :
    (serveAll requests ⟨ofSettings schema s, log⟩).2.state.rules =
      ((Rules.ofSettings s).serveAll schema requests).2 :=
  (serveAll_under (j := ⟨ofSettings schema s, log⟩) requests (under_ofSettings schema s)).2.rules_eq

/-- **The cache cannot be seen.**  For every sequence of requests, changes of the rules among them, the mapper answers
each request as the rules in force at that moment do when the request is compiled afresh, but for the case of labels;
and it ends with those rules and with routines that are exactly what their keys compile to.  To read many rows is one
request; what a reading answers that is asked for them between other requests is said by `respondAll_alike`. -/
theorem serveAll_alike (schema : Schema α) (s : Settings) (log : List LogRecord) (requests : List (Request α)) :
    List.Forall₂ (Result.Alike Answer.Alike) ((Rules.ofSettings s).serveAll schema requests).1
        (serveAll requests ⟨ofSettings schema s, log⟩).1 ∧
      (serveAll requests ⟨ofSettings schema s, log⟩).2.state.schema = schema ∧
      (serveAll requests ⟨ofSettings schema s, log⟩).2.state.rules =
        ((Rules.ofSettings s).serveAll schema requests).2 ∧
      (serveAll requests ⟨ofSettings schema s, log⟩).2.state.Fresh := by
  obtain ⟨hanswers, hunder⟩ := serveAll_under (j := ⟨ofSettings schema s, log⟩) requests (under_ofSettings schema s)
  exact ⟨hanswers, hunder.schema_eq, rules_serveAll schema s log requests, hunder.fresh⟩

/-! ## Rows between requests -/

section Events

/-- Each reading holds the routine of what it remembers. -/
def RecallsAll (schema : Schema α) (remembered : LiveReading → Option (Rules.Remembered α))
    (held : LiveReading → Option (RowRoutine α)) : Prop :=
  ∀ reading, Option.Rel (Recalls schema) (remembered reading) (held reading)

variable {remembered : LiveReading → Option (Rules.Remembered α)} {held : LiveReading → Option (RowRoutine α)}
  {j : Journaled (Mapper α)}

theorem RecallsAll.update (h : RecallsAll schema remembered held) (reading : LiveReading)
    {k : Option (Rules.Remembered α)} {r : Option (RowRoutine α)} (hkr : Option.Rel (Recalls schema) k r) :
    RecallsAll schema (Function.update remembered reading k) (Function.update held reading r) := by
  intro other
  by_cases hother : other = reading
  · rw [hother, Function.update_self, Function.update_self]
    exact hkr
  · rw [Function.update_of_ne hother, Function.update_of_ne hother]
    exact h other

/-- **One event.** -/
theorem respond_under (event : Event α) (h : RecallsAll schema remembered held) (hj : Under schema rules j.state) :
    Result.Alike Answer.Alike (rules.respond schema remembered event).1 (respond held event j).1 ∧
      RecallsAll schema (rules.respond schema remembered event).2.1 (respond held event j).2.1 ∧
      Under schema (rules.respond schema remembered event).2.2 (respond held event j).2.2.state := by
  cases event with
  | request request =>
    obtain ⟨hanswer, hunder⟩ := serves schema rules request j hj
    exact ⟨hanswer, h, hunder⟩
  | row reading row =>
    obtain ⟨hunder, hnext⟩ := readNext_mirrors reading.target (h reading) row j hj
    unfold Rules.respond respond
    dsimp only
    generalize (readNext reading.target (held reading) row).perform j = ran at hunder hnext
    generalize Result.attempted ((rules.forNext _ _).read schema reading.target row) = result at hnext
    obtain ⟨ran, i⟩ := ran
    cases result with
    | ok a =>
      obtain ⟨⟨b, next⟩, rfl, halike, hrecalls⟩ := hnext.exists_of_ok
      exact ⟨.objects (.cons halike .nil), h.update reading hrecalls, hunder⟩
    | error e =>
      cases ran with
      | ok x => cases hnext
      | error f => exact ⟨hnext, h.update reading .none, hunder⟩

/-- Events one after the other. -/
theorem respondAll_under (events : List (Event α)) (h : RecallsAll schema remembered held)
    (hj : Under schema rules j.state) :
    List.Forall₂ (Result.Alike Answer.Alike) (rules.respondAll schema remembered events).1 (respondAll held events j).1 ∧
      Under schema (rules.respondAll schema remembered events).2 (respondAll held events j).2.state := by
  induction events generalizing rules remembered held j with
  | nil => exact ⟨.nil, hj⟩
  | cons event events ih =>
    obtain ⟨hanswer, hrecalls, hnext⟩ := respond_under event h hj
    obtain ⟨hanswers, hlast⟩ := ih hrecalls hnext
    exact ⟨.cons hanswer hanswers, hlast⟩

/-- **Only a reading that goes on sees what was compiled before a change.**  For every sequence of requests and of rows of
any readings, the mapper answers each request as the rules in force do, and each row as the rules do that were in force
when its reading last had a routine compiled or looked up: a change between two rows of one shape is not seen by the
second.  The mapper ends with the rules in force, and its routines are exactly what their keys compile to. -/
theorem respondAll_alike (schema : Schema α) (s : Settings) (log : List LogRecord) (events : List (Event α)) :
    List.Forall₂ (Result.Alike Answer.Alike) ((Rules.ofSettings s).respondAll schema (fun _ => none) events).1
        (respondAll (fun _ => none) events ⟨ofSettings schema s, log⟩).1 ∧
      (respondAll (fun _ => none) events ⟨ofSettings schema s, log⟩).2.state.rules =
        ((Rules.ofSettings s).respondAll schema (fun _ => none) events).2 ∧
      (respondAll (fun _ => none) events ⟨ofSettings schema s, log⟩).2.state.Fresh := by
  obtain ⟨hanswers, hunder⟩ := respondAll_under (j := ⟨ofSettings schema s, log⟩) events (fun _ => .none)
    (under_ofSettings schema s)
  exact ⟨hanswers, hunder.rules_eq, hunder.fresh⟩

/-- A number that a byte cannot hold is cut to one although the mode was made automatic after the first row.  A reading
that begins afterwards refuses it. -/
example :
    let row : Row := ⟨[.column "n" (.integer .int64)], [.integer (k := .int64) ⟨300, by decide⟩]⟩
    let schema : Schema Value := fun _ => .ofNative id (.base (.integer .int8))
    let cut : Value := .integer (k := .int8) ⟨44, by decide⟩
    ∃ e, ((Rules.ofSettings {}).respondAll schema (fun _ => none) [.row ⟨"i8", 0⟩ row,
      .request (.setSettings { mode := .automatic }), .row ⟨"i8", 0⟩ row, .row ⟨"i8", 1⟩ row]).1 =
        [.ok (.objects [.ok cut]), .ok .done, .ok (.objects [.ok cut]), .ok (.objects [.error e])] :=
  ⟨_, rfl⟩

/-- A reading that is asked for rows with nothing between answers as one that reads them all at once. -/
theorem respondAll_rows (reading : LiveReading) (rows : List Row) {i : Journaled (Mapper α)} {results : List (Result α)}
    (h : (readAllFrom reading.target (held reading) rows).perform j = (.ok results, i)) :
    respondAll held (rows.map (.row reading)) j = (results.map fun result => .ok (.objects [result]), i) := by
  induction rows generalizing held j results with
  | nil =>
    cases h
    rfl
  | cons row rows ih =>
    unfold readAllFrom at h
    rw [Job.perform_bind] at h
    rw [List.map_cons, respondAll, respond]
    generalize (readNext reading.target (held reading) row).perform j = ran at h
    obtain ⟨ran, k⟩ := ran
    cases ran with
    | error e => cases h
    | ok x =>
      obtain ⟨first, next⟩ := x
      dsimp only at h ⊢
      rw [Job.perform_returning] at h
      have hrest := @ih (Function.update held reading next) k
      rw [Function.update_self] at hrest
      generalize (readAllFrom reading.target next rows).perform k = rest at h hrest
      obtain ⟨rest, l⟩ := rest
      cases rest with
      | error e => cases h
      | ok rest =>
        cases h
        rw [hrest rfl]
        rfl

end Events

end Mapper

end RowBinding
