import RowBinding.Proofs.CacheTransparency
/-!
# The routine of the row before

Reading many rows, the mapper keeps the routine of the row before and looks up another one only where the shape changes.
**It reads the rows as if each were read by itself** (`Mapper.readAll_readEach`): the results are the same, and so are
the routines in the cache and the number of compilations; only requests that found their routine are fewer.
-/
namespace RowBinding

variable {α β ε : Type}

/-! ## Two caches -/

namespace FunctionCache

/-- The caches hold the same routines after as many compilations, the second having been asked no less. -/
structure Leads (c d : FunctionCache ε) : Prop where
  entries_eq : c.entries = d.entries
  compilations_eq : c.compilations = d.compilations
  hits_le : c.hits ≤ d.hits

variable {c d : FunctionCache ε} {p q : Fingerprint} {good : Fingerprint → ε → Prop} {kind : ε → Option β}

theorem Leads.refl (c : FunctionCache ε) : c.Leads c := ⟨rfl, rfl, Nat.le_refl _⟩

theorem Leads.entry? (h : c.Leads d) (p : Fingerprint) : c.entry? p = d.entry? p := by
  rw [FunctionCache.entry?, FunctionCache.entry?, h.entries_eq]

theorem Leads.find? (h : c.Leads d) (kind : ε → Option β) (p : Fingerprint) : c.find? kind p = d.find? kind p := by
  rw [FunctionCache.find?, FunctionCache.find?, h.entry?]

/-- Keys that share a routine find the same. -/
theorem find?_same (h : p.same q = true) (c : FunctionCache ε) (kind : ε → Option β) :
    c.find? kind p = c.find? kind q := by
  rw [FunctionCache.find?, FunctionCache.find?, FunctionCache.entry?, FunctionCache.entry?,
    funext fun e : Fingerprint × Published ε => Fingerprint.same_congr h e.1]

/-- One more request that finds its routine. -/
theorem Leads.hit (h : c.Leads d) : c.Leads { d with hits := d.hits + 1 } :=
  ⟨h.entries_eq, h.compilations_eq, Nat.le_succ_of_le h.hits_le⟩

theorem Leads.publish (h : c.Leads d) (p : Fingerprint) (e : Published ε) : (c.publish p e).Leads (d.publish p e) := by
  unfold FunctionCache.publish
  rw [h.entry? p]
  cases d.entry? p with
  | some _ => exact h
  | none => exact ⟨congrArg (· ++ [(p, e)]) h.entries_eq, h.compilations_eq, h.hits_le⟩

/-- **A request to both caches is answered alike**, and what it returns is found afterwards. -/
theorem getOrCompile_together (kind : ε → Option β) (store : β → ε) (p : Fingerprint)
    (compile : Fingerprint → Result β) {P : FunctionCache ε → FunctionCache ε → Prop}
    (hP : ∀ s t, P s t → s.Leads t ∧ t.Sound good) (hstore : ∀ b, kind (store b) = some b)
    (hkind : ∀ q e, q.same p = true → good q e → ∃ b, kind e = some b) :
    Job.Together P P (fun x y s t => x = y ∧ s.Leads t ∧ t.find? kind p = some y)
      (getOrCompile kind store p compile) (getOrCompile kind store p compile) := by
  intro i j hij
  obtain ⟨h, hsound⟩ := hP _ _ hij
  cases hfind : j.state.find? kind p with
  | some r =>
    rw [perform_getOrCompile_some i ((h.find? kind p).trans hfind), perform_getOrCompile_some j hfind]
    exact .ok ⟨rfl, ⟨h.entries_eq, h.compilations_eq, Nat.succ_le_succ h.hits_le⟩, hfind⟩
  | none =>
    rw [perform_getOrCompile_none i ((h.find? kind p).trans hfind), perform_getOrCompile_none j hfind]
    cases hcompile : compile p with
    | error e =>
      rw [perform_compileAndPublish_error i hcompile, perform_compileAndPublish_error j hcompile]
      exact .error hij
    | ok b =>
      have hnone := hsound.entry?_eq_none hkind hfind
      rw [perform_compileAndPublish_ok i hcompile ((h.entry? p).trans hnone) (hstore b),
        perform_compileAndPublish_ok j hcompile hnone (hstore b)]
      have hfound := find?_publish (c := { j.state with compilations := j.state.compilations + 1 })
        (e := ⟨j.state.compilations + 1, store b⟩) hnone (hstore b)
      rw [show i.state.compilations = j.state.compilations from h.compilations_eq]
      refine .ok ⟨rfl, Leads.publish ?_ p _, hfound⟩
      exact ⟨h.entries_eq, rfl, h.hits_le⟩

end FunctionCache

/-! ## Two mappers -/

namespace Mapper

variable {schema : Schema α} {rules : Rules α} {n : Mapper α}

/-- The routine that is kept is the one that every row of its shape would be given. -/
def Keeps (n : Mapper α) (current : Option (RowRoutine α)) : Prop :=
  ∀ r, current = some r → ∀ p, r.fingerprint.same p = true → ∃ serial, n.cache.find? Routine.row? p = some ⟨serial, r⟩

/-- The mappers have one set of types and rules and caches that hold the same, the kept routine among them. -/
structure Beside (schema : Schema α) (rules : Rules α) (current : Option (RowRoutine α)) (m n : Mapper α) : Prop where
  left : Under schema rules m
  right : Under schema rules n
  leads : m.cache.Leads n.cache
  keeps : n.Keeps current

theorem keeps_of_find? (h : Under schema rules n) {p : Fingerprint} {s : Published (RowRoutine α)}
    (hfind : n.cache.find? Routine.row? p = some s) : n.Keeps (some s.routine) := by
  rintro r ⟨⟩ q hq
  obtain ⟨k, e, hk, he, hr⟩ := h.sound.find? hfind
  have hrow : e = .row s.routine := by
    cases e with
    | parameters t => cases hr
    | row t => exact congrArg Routine.row (Option.some.inj hr)
  rw [hrow] at he
  rw [RowRoutine.compile_fingerprint he.2] at hq
  have hpq : p.same q = true := Fingerprint.same_trans (Fingerprint.same_symm hk) hq
  exact ⟨s.serial, (FunctionCache.find?_same hpq _ _).symm.trans hfind⟩

theorem perform_compileRow (target : TypeName) (fields : List Field) {j : Journaled (Mapper α)}
    (hj : Under schema rules j.state) : (compileRow target fields).perform j =
      (onCache (FunctionCache.getOrCompile Routine.row? Routine.row (.rowToObject target fields)
        (RowRoutine.compile schema rules))).perform j := by
  rw [compileRow, Job.perform_bind, Job.perform_get]
  dsimp only
  rw [hj.schema_eq, hj.rules_eq]

/-- **A request to both mappers is answered alike**, and by a routine that may be kept. -/
theorem compileRow_together (current : Option (RowRoutine α)) (target : TypeName) (fields : List Field) :
    Job.Together (Beside schema rules current) (Beside schema rules current)
      (fun x y m n => x = y ∧ Beside schema rules (some y.routine) m n)
      (compileRow target fields) (compileRow target fields) := by
  rintro i j ⟨hi, hj, hleads, hkeeps⟩
  have hleft := (compileRow_mirrors target fields i hi).1
  have hright := (compileRow_mirrors target fields j hj).1
  have hend := FunctionCache.getOrCompile_together Routine.row? Routine.row (.rowToObject target fields)
    (RowRoutine.compile schema rules) (P := fun s t => s = i.state.cache ∧ t = j.state.cache)
    (fun s t ⟨hs, ht⟩ => ⟨hs ▸ ht ▸ hleads, ht ▸ hj.sound⟩) (fun _ => rfl) row?_of_compiled
    ⟨i.state.cache, i.log⟩ ⟨j.state.cache, j.log⟩ ⟨rfl, rfl⟩
  rw [perform_compileRow target fields hi, onCache, Job.perform_onPart] at hleft ⊢
  rw [perform_compileRow target fields hj, onCache, Job.perform_onPart] at hright ⊢
  generalize (FunctionCache.getOrCompile _ _ _ _).perform (⟨i.state.cache, i.log⟩ : Journaled _) = ran at hend hleft ⊢
  generalize (FunctionCache.getOrCompile _ _ _ _).perform (⟨j.state.cache, j.log⟩ : Journaled _) = ran' at hend hright ⊢
  cases hend with
  | ok h =>
    obtain ⟨rfl, hleads, hfind⟩ := h
    exact .ok ⟨rfl, hleft, hright, hleads, keeps_of_find? hright hfind⟩
  | error h =>
    obtain ⟨hs, ht⟩ := h
    dsimp only
    rw [hs, ht]
    exact .error ⟨hi, hj, hleads, hkeeps⟩

/-! ## Reading -/

/-- Reads each of some rows by itself, going on after a row that fails. -/
def readEach (target : TypeName) (rows : List Row) : Job (Mapper α) (List (Result α)) :=
  rows.mapM fun row => attempt (read target row)

/-- The routine that is kept serves as the one that is looked up. -/
theorem routineFor_together (target : TypeName) (current : Option (RowRoutine α)) (row : Row) :
    Job.Together (Beside schema rules current) (Beside schema rules current)
      (fun r s m n => r = s.routine ∧ Beside schema rules (some r) m n)
      (routineFor target current row) (compileRow target row.fields) := by
  have hnew : Job.Together (Beside schema rules current) (Beside schema rules current)
      (fun r s m n => r = s.routine ∧ Beside schema rules (some r) m n)
      (do return (← compileRow target row.fields).routine) (compileRow target row.fields) := by
    refine (compileRow_together current target row.fields).returning ?_
    rintro s t m n ⟨rfl, h⟩
    exact ⟨rfl, h⟩
  cases current with
  | none => exact hnew
  | some r =>
    unfold routineFor
    dsimp only
    split
    · rename_i hsame
      rintro i j ⟨hi, hj, hleads, hkeeps⟩
      obtain ⟨serial, hfind⟩ := hkeeps r rfl _ hsame
      rw [perform_compileRow target row.fields hj, onCache, Job.perform_onPart,
        FunctionCache.perform_getOrCompile_some ⟨j.state.cache, j.log⟩ hfind]
      have hright := hj.onCache (c := { j.state.cache with hits := j.state.cache.hits + 1 }) hj.sound
      exact .ok ⟨rfl, hi, hright, hleads.hit, keeps_of_find? hright hfind⟩
    · exact hnew

/-- Two attempts end with one result, or with one failure. -/
theorem attempt_together {P E : Mapper α → Mapper α → Prop} {Q : β → γ → Mapper α → Mapper α → Prop}
    {job : Job (Mapper α) β} {job' : Job (Mapper α) γ} (h : Job.Together P E Q job job') :
    Job.Together P E (fun x y m n => (∃ b c, x = .ok b ∧ y = .ok c ∧ Q b c m n) ∨
      ∃ e, x = .error e ∧ y = .error e ∧ E m n) (attempt job) (attempt job') := by
  intro i j hij
  have hend := h i j hij
  rw [perform_attempt, perform_attempt]
  generalize job.perform i = ran at hend ⊢
  generalize job'.perform j = ran' at hend ⊢
  cases hend with
  | ok h => exact .ok (.inl ⟨_, _, rfl, rfl, h⟩)
  | @error e i j h =>
    dsimp only
    rw [attempted_error, attempted_error]
    cases e.isAbort with
    | true => exact .error h
    | false => exact .ok (.inr ⟨e, rfl, rfl, h⟩)

/-- **One row.** -/
theorem readNext_together (target : TypeName) (current : Option (RowRoutine α)) (row : Row) :
    Job.Together (Beside schema rules current) (fun m n => ∃ kept, Beside schema rules kept m n)
      (fun x y m n => x.1 = y ∧ Beside schema rules x.2 m n)
      (readNext target current row) (attempt (read target row)) := by
  unfold readNext read
  rw [attempt_bind]
  refine ((attempt_together (routineFor_together target current row)).mono_error fun _ _ h => ⟨_, h⟩).bind ?_
  rintro x y i j (⟨r, s, rfl, rfl, rfl, h⟩ | ⟨e, rfl, rfl, h⟩)
  · dsimp only
    rw [Job.perform_bind, perform_attempt, perform_attempt, Job.perform_ofResult, Job.perform_ofResult]
    cases Result.attempted (s.routine.call row) with
    | ok result => exact .ok ⟨rfl, h⟩
    | error e => exact .error ⟨_, h⟩
  · exact .ok ⟨rfl, h⟩

/-- **Rows one after the other**, whatever routine is kept at first. -/
theorem readAllFrom_together (target : TypeName) (rows : List Row) (current : Option (RowRoutine α)) :
    Job.Together (Beside schema rules current) (fun m n => ∃ kept, Beside schema rules kept m n)
      (fun x y m n => x = y ∧ ∃ kept, Beside schema rules kept m n)
      (readAllFrom target current rows) (readEach target rows) := by
  unfold readEach
  induction rows generalizing current with
  | nil => exact Job.Together.pure fun _ _ h => ⟨rfl, _, h⟩
  | cons row rows ih =>
    unfold readAllFrom
    rw [List.mapM_cons]
    refine (readNext_together target current row).bind ?_
    rintro ⟨first, next⟩ y i j ⟨rfl, h⟩
    refine (ih next).bind (fun rest rest' => ?_) i j h
    refine Job.Together.pure ?_
    rintro m n ⟨hrest, h⟩
    exact ⟨hrest ▸ rfl, h⟩

/-- **Reading many rows is reading each of them.**  For every mapper that requests have led to and every list of rows,
of whatever shapes, the results are the same, row by row; and afterwards the mappers have the same types and rules, the
same routines in the cache and as many compilations.  Reading all of them asks the cache no more often. -/
theorem readAll_readEach (schema : Schema α) (settings : Settings) (log : List LogRecord) (requests : List (Request α))
    (target : TypeName) (rows : List Row) :
    let used := (serveAll requests ⟨ofSettings schema settings, log⟩).2
    let all := (readAll target rows).perform used
    let each := (readEach target rows).perform used
    all.1 = each.1 ∧ all.2.state.schema = each.2.state.schema ∧ all.2.state.rules = each.2.state.rules ∧
      all.2.state.cache.entries = each.2.state.cache.entries ∧
      all.2.state.cache.compilations = each.2.state.cache.compilations ∧
      all.2.state.cache.hits ≤ each.2.state.cache.hits := by
  intro used all each
  have hunder : Under schema used.state.rules used.state := under_serveAll schema settings log requests
  have hbeside : Beside schema used.state.rules none used.state used.state :=
    ⟨hunder, hunder, .refl _, fun r hr => by cases hr⟩
  obtain ⟨hresult, kept, hleft, hright, hleads, -⟩ := (readAllFrom_together target rows none used used hbeside).same
  exact ⟨hresult, hleft.schema_eq.trans hright.schema_eq.symm, hleft.rules_eq.trans hright.rules_eq.symm,
    hleads.entries_eq, hleads.compilations_eq, hleads.hits_le⟩

end Mapper

end RowBinding
