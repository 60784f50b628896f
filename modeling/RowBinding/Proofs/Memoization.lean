import RowBinding.Proofs.RuleChanges
import RowBinding.Proofs.WantedRoutines
/-!
# Routines are compiled once

Between two moments at which a mapper drops its routines its cache only grows, by one entry for each routine that is
compiled.  **As long as nothing is dropped a key gets one routine, which is compiled once**
(`Mapper.obtain_memoized`), whatever else is asked of the mapper meanwhile.
-/
namespace RowBinding

variable {α β γ ε : Type}

/-! ## Growing caches -/

namespace FunctionCache

/-- The second cache has the entries of the first, and after them one entry for each compilation since. -/
def Grows (c d : FunctionCache ε) : Prop :=
  ∃ new, d.entries = c.entries ++ new ∧ d.compilations = c.compilations + new.length ∧
    new.map (·.2.serial) = List.range' (c.compilations + 1) new.length

variable {c d e : FunctionCache ε} {p : Fingerprint}

theorem Grows.refl (c : FunctionCache ε) : c.Grows c := ⟨[], (List.append_nil _).symm, rfl, rfl⟩

theorem Grows.trans (h : c.Grows d) (h' : d.Grows e) : c.Grows e := by
  obtain ⟨new, hentries, hcompilations, hserials⟩ := h
  obtain ⟨new', hentries', hcompilations', hserials'⟩ := h'
  refine ⟨new ++ new', by rw [hentries', hentries, List.append_assoc], ?_, ?_⟩
  · rw [hcompilations', hcompilations, List.length_append, Nat.add_assoc]
  · rw [List.map_append, List.length_append, hserials, hserials', hcompilations,
      Nat.add_right_comm c.compilations new.length 1, List.range'_append_1]

theorem Grows.entry? (h : c.Grows d) {e : Published ε} (he : c.entry? p = some e) : d.entry? p = some e := by
  obtain ⟨new, hentries, -, -⟩ := h
  exact entry?_of_prefix ⟨new, hentries.symm⟩ he

theorem entry?_same {q : Fingerprint} (h : p.same q = true) (c : FunctionCache ε) : c.entry? p = c.entry? q := by
  rw [FunctionCache.entry?, FunctionCache.entry?,
    funext fun e : Fingerprint × Published ε => Fingerprint.same_congr h e.1]

end FunctionCache

/-! ## Turns -/

/-- What happens to a mapper next: it is asked something, or a reading of rows that goes on beside other requests takes its
next step, whatever routine it holds by then. -/
inductive Turn (α : Type) where
  | request (request : Request α)
  | readNext (target : TypeName) (current : Option (RowRoutine α)) (row : Row)

/-- What a mapper answers when its turn comes. -/
def Turn.serve : Turn α → Job (Mapper α) (Answer α)
  | .request r => Mapper.serve r
  | .readNext target current row => do return .objects [(← Mapper.readNext target current row).1]

/-- The request asks for a change of the rules. -/
def Request.changesRules : Request α → Bool
  | .setSettings _ | .addValueHandler .. | .removeValueHandler .. | .addObjectHook .. | .addMemberStorage ..
  | .addTypeStorage .. => true
  | _ => false

/-- The request, being answered so, drops the routines: it asks for that, or for a change of the rules that is not
refused. -/
inductive Request.Drops : Request α → Result (Answer α) → Prop
  | reset (answer : Result (Answer α)) : Drops .resetCache answer
  | accepted {request : Request α} (h : request.changesRules = true) (answer : Answer α) : Drops request (.ok answer)

/-- The step of a reading drops nothing. -/
def Turn.Drops : Turn α → Result (Answer α) → Prop
  | .request r, answer => r.Drops answer
  | .readNext .., _ => False

namespace Mapper

variable {schema : Schema α} {rules : Rules α} {w : Wanted} {c d : FunctionCache (Routine α)}
  {result : Result (Published (Routine α))}

theorem Obtained.grows (h : Obtained schema rules w c result d) : c.Grows d := by
  cases h with
  | found => exact .refl c
  | failed => exact .refl c
  | published => exact ⟨[_], rfl, rfl, rfl⟩

/-! ## Jobs that drop nothing -/

/-- Nothing has happened to the mapper but that routines were compiled. -/
structure Extends (m n : Mapper α) : Prop where
  schema_eq : n.schema = m.schema
  rules_eq : n.rules = m.rules
  grows : m.cache.Grows n.cache

theorem Extends.refl (m : Mapper α) : m.Extends m := ⟨rfl, rfl, .refl _⟩

theorem Extends.trans {l m n : Mapper α} (h : l.Extends m) (h' : m.Extends n) : l.Extends n :=
  ⟨h'.schema_eq.trans h.schema_eq, h'.rules_eq.trans h.rules_eq, h.grows.trans h'.grows⟩

/-- The mapper has these types and rules, only routines of them, and a well-kept cache. -/
structure Keeping (schema : Schema α) (rules : Rules α) (m : Mapper α) : Prop where
  under : Under schema rules m
  wellKept : m.cache.WellKept

/-- Under these types and rules the job does nothing but compile routines. -/
def OnlyCompiles (schema : Schema α) (rules : Rules α) (job : Job (Mapper α) β) : Prop :=
  ∀ j, Keeping schema rules j.state →
    Keeping schema rules (job.perform j).2.state ∧ j.state.Extends (job.perform j).2.state

namespace OnlyCompiles

variable {job : Job (Mapper α) β} {next : β → Job (Mapper α) γ}

theorem pure (b : β) : OnlyCompiles schema rules (Pure.pure b) := fun _ hj => ⟨hj, .refl _⟩

theorem ofResult (r : Result β) : OnlyCompiles schema rules (Job.ofResult r) := by
  intro j hj
  rw [Job.perform_ofResult]
  exact ⟨hj, .refl _⟩

theorem report (level : LogLevel) (message : String) : OnlyCompiles schema rules (Job.report level message) :=
  fun _ hj => ⟨hj, .refl _⟩

theorem bind (h : OnlyCompiles schema rules job) (hnext : ∀ b, OnlyCompiles schema rules (next b)) :
    OnlyCompiles schema rules (job >>= next) := by
  intro j hj
  obtain ⟨hkeeping, hextends⟩ := h j hj
  rw [Job.perform_bind]
  generalize job.perform j = ran at hkeeping hextends ⊢
  obtain ⟨result, i⟩ := ran
  cases result with
  | error e => exact ⟨hkeeping, hextends⟩
  | ok b =>
    obtain ⟨hlast, hrest⟩ := hnext b i hkeeping
    exact ⟨hlast, hextends.trans hrest⟩

theorem returning (h : OnlyCompiles schema rules job) (f : β → γ) :
    OnlyCompiles schema rules (do return f (← job)) := h.bind fun b => pure (f b)

theorem attempt (h : OnlyCompiles schema rules job) : OnlyCompiles schema rules (attempt job) := by
  intro j hj
  rw [perform_attempt]
  exact h j hj

end OnlyCompiles

theorem obtain_onlyCompiles (w : Wanted) : OnlyCompiles schema rules (obtain w) := by
  intro j hj
  obtain ⟨d, log, hstate, hobtained⟩ := obtained w hj.under
  have hunder := under_obtain w hj.under
  rw [hstate] at hunder ⊢
  exact ⟨⟨hunder, hobtained.wellKept hj.wellKept⟩, rfl, rfl, hobtained.grows⟩

theorem compileRow_onlyCompiles (target : TypeName) (fields : List Field) :
    OnlyCompiles schema rules (compileRow target fields) := by
  intro j hj
  have hobtain := obtain_onlyCompiles (.row target fields) j hj
  rwa [obtain, Job.perform_returning] at hobtain

theorem compileParameters_onlyCompiles (target source : TypeName) (fields : List Field) :
    OnlyCompiles schema rules (compileParameters target source fields) := by
  intro j hj
  have hobtain := obtain_onlyCompiles (.parameters target source fields) j hj
  rwa [obtain, Job.perform_returning] at hobtain

theorem routineFor_onlyCompiles (target : TypeName) (current : Option (RowRoutine α)) (row : Row) :
    OnlyCompiles schema rules (routineFor target current row) := by
  have hnew : OnlyCompiles schema rules (do return (← compileRow target row.fields).routine) :=
    (compileRow_onlyCompiles target row.fields).returning (·.routine)
  cases current with
  | none => exact hnew
  | some r =>
    unfold routineFor
    dsimp only
    split
    · exact .pure r
    · exact hnew

theorem readNext_onlyCompiles (target : TypeName) (current : Option (RowRoutine α)) (row : Row) :
    OnlyCompiles schema rules (readNext target current row) := by
  refine (routineFor_onlyCompiles target current row).attempt.bind fun found => ?_
  cases found with
  | error e => exact .pure _
  | ok r => exact (OnlyCompiles.ofResult (r.call row)).attempt.returning fun result => (result, some r)

theorem readAllFrom_onlyCompiles (target : TypeName) : ∀ (rows : List Row) (current : Option (RowRoutine α)),
    OnlyCompiles schema rules (readAllFrom target current rows)
  | [], _ => .pure []
  | row :: rows, current => by
    refine (readNext_onlyCompiles target current row).bind fun ⟨first, next⟩ => ?_
    exact (readAllFrom_onlyCompiles target rows next).returning (first :: ·)

theorem bindToFields_onlyCompiles (command : Command) (target : TypeName) (object : α) (fields : List Field) :
    OnlyCompiles schema rules (bindToFields command target object fields) := by
  have hparameters : OnlyCompiles schema rules (parametersFor target object fields) :=
    (compileParameters_onlyCompiles target target fields).bind fun r => .ofResult (r.routine.call object)
  exact hparameters.returning command.append

theorem ofEntities_onlyCompiles (target : TypeName) (objects : List α) (store : List Field) :
    OnlyCompiles schema rules (BulkTable.ofEntities target objects store) := by
  refine (compileParameters_onlyCompiles target target store).bind fun r => ?_
  refine (OnlyCompiles.ofResult (objects.mapM (BulkTable.rowOf r.routine))).bind fun rows => ?_
  exact (OnlyCompiles.report _ _).bind fun _ => .pure _

/-! ## Requests -/

theorem Keeping.own {m : Mapper α} (h : Keeping schema rules m) : Keeping schema m.rules m :=
  ⟨⟨h.under.schema_eq, rfl, h.under.fresh⟩, h.wellKept⟩

theorem keeping_ofSettings (schema : Schema α) (s : Settings) : Keeping schema (.ofSettings s) (ofSettings schema s) :=
  ⟨under_ofSettings schema s, FunctionCache.wellKept_empty⟩

/-- After the turn the mapper keeps its routines well, and unless they were dropped some may have been compiled. -/
def Served (schema : Schema α) (turn : Turn α) (j : Journaled (Mapper α)) : Prop :=
  Keeping schema (turn.serve.perform j).2.state.rules (turn.serve.perform j).2.state ∧
    (¬ turn.Drops (turn.serve.perform j).1 → j.state.Extends (turn.serve.perform j).2.state)

section Served

variable {turn : Turn α} {request : Request α} {j : Journaled (Mapper α)}

theorem OnlyCompiles.served (h : OnlyCompiles schema rules turn.serve) (hj : Keeping schema rules j.state) :
    Served schema turn j := ⟨(h j hj).1.own, fun _ => (h j hj).2⟩

/-- A change of the rules is refused, which leaves everything as it is, or drops the routines. -/
theorem served_change (c : RuleChange α) (hj : Keeping schema rules j.state) : Served schema (.request c.request) j := by
  have hperform := perform_change c j
  unfold Served Turn.serve
  dsimp only
  cases houtcome : c.outcome j.state.rules with
  | error e =>
    rw [houtcome] at hperform
    dsimp only at hperform
    rw [hperform]
    exact ⟨hj.own, fun _ => .refl _⟩
  | ok next =>
    rw [houtcome] at hperform
    obtain ⟨⟨answer, hdone⟩, hstate⟩ := hperform
    have hchanges : c.request.changesRules = true := by cases c <;> rfl
    rw [hdone, hstate]
    refine ⟨⟨⟨hj.under.schema_eq, rfl, FunctionCache.sound_reset⟩, FunctionCache.wellKept_reset _⟩, fun hkept => ?_⟩
    exact absurd (.accepted hchanges answer) hkept

theorem served_request (request : Request α) (hj : Keeping schema rules j.state) :
    Served schema (.request request) j := by
  cases request with
  | read target row =>
    have hread : OnlyCompiles schema rules (read target row) :=
      (compileRow_onlyCompiles target row.fields).bind fun r => .ofResult (r.routine.call row)
    exact (hread.returning _).served hj
  | readAll target rows => exact ((readAllFrom_onlyCompiles target rows none).returning _).served hj
  | bind command target object => exact ((bindToFields_onlyCompiles command target object []).returning _).served hj
  | bindToFields command target object fields =>
    exact ((bindToFields_onlyCompiles command target object fields).returning _).served hj
  | compileRow target fields => exact ((compileRow_onlyCompiles target fields).returning _).served hj
  | compileParameters target source fields =>
    exact ((compileParameters_onlyCompiles target source fields).returning _).served hj
  | tableOf target objects store => exact ((ofEntities_onlyCompiles target objects store).returning _).served hj
  | setSettings s => exact served_change (.setSettings s) hj
  | addValueHandler owner member handler force => exact served_change (.addValueHandler owner member handler force) hj
  | removeValueHandler owner member => exact served_change (.removeValueHandler owner member) hj
  | addObjectHook owner hook force => exact served_change (.addObjectHook owner hook force) hj
  | addMemberStorage owner member storage force => exact served_change (.addMemberStorage owner member storage force) hj
  | addTypeStorage t storage force => exact served_change (.addTypeStorage t storage force) hj
  | resetCache =>
    have hreset : Keeping schema j.state.rules { j.state with cache := j.state.cache.reset } :=
      ⟨hj.own.under.onCache FunctionCache.sound_reset, FunctionCache.wellKept_reset _⟩
    exact ⟨hreset, fun hkept => absurd (.reset _) hkept⟩

/-- **One turn.** -/
theorem served (turn : Turn α) (hj : Keeping schema rules j.state) : Served schema turn j := by
  cases turn with
  | request request => exact served_request request hj
  | readNext target current row => exact ((readNext_onlyCompiles target current row).returning _).served hj

end Served

/-! ## Runs -/

/-- None of the turns, being answered so, drops the routines. -/
def Undisturbed : List (Turn α) → List (Result (Answer α)) → Prop :=
  List.Forall₂ fun turn answer => ¬ turn.Drops answer

/-- Lets a mapper have its turns one after the other. -/
def serveTurns (turns : List (Turn α)) (j : Journaled (Mapper α)) :
    List (Result (Answer α)) × Journaled (Mapper α) := Job.performAll (turns.map Turn.serve) j

theorem keeping_serveTurns (turns : List (Turn α)) {j : Journaled (Mapper α)} (hj : Keeping schema rules j.state) :
    Keeping schema (serveTurns turns j).2.state.rules (serveTurns turns j).2.state := by
  refine Job.performAll_keeps (I := fun i => Keeping schema i.state.rules i.state) _ j ?_ hj.own
  intro job hjob i hi
  obtain ⟨turn, -, rfl⟩ := List.mem_map.1 hjob
  exact (served turn hi).1

/-- **While nothing is dropped all that happens is that routines are compiled.** -/
theorem extends_serveTurns (turns : List (Turn α)) {j : Journaled (Mapper α)} (hj : Keeping schema rules j.state)
    (h : Undisturbed turns (serveTurns turns j).1) : j.state.Extends (serveTurns turns j).2.state := by
  -- each turn leaves the invariant under the rules that the mapper has by then, so these vary with the state
  induction turns generalizing rules j with
  | nil => exact .refl _
  | cons turn turns ih =>
    obtain ⟨hkeeping, hextends⟩ := served turn hj
    cases h with
    | cons hkept hrest => exact (hextends hkept).trans (ih hkeeping hrest)

/-- A mapper that is new at first keeps its routines well whatever happens to it. -/
theorem keeping_ofTurns (schema : Schema α) (s : Settings) (log : List LogRecord) (turns : List (Turn α)) :
    Keeping schema (serveTurns turns ⟨ofSettings schema s, log⟩).2.state.rules
      (serveTurns turns ⟨ofSettings schema s, log⟩).2.state :=
  keeping_serveTurns turns (j := ⟨ofSettings schema s, log⟩) (keeping_ofSettings schema s)

/-! ## Looking first -/

/-- Looks for a wanted routine before it asks for it. -/
def lookFirst (w : Wanted) : Job (Mapper α) (Published (Routine α)) := do
  match ← onCache (FunctionCache.get w.kind.view w.key) with
  | some r => return r.map w.kind.store
  | none => obtain w

theorem perform_lookFirst (w : Wanted) {j : Journaled (Mapper α)} (hj : Under schema rules j.state) :
    (lookFirst w).perform j = (obtain w).perform j := by
  unfold lookFirst
  rw [Job.perform_bind, onCache, Job.perform_onPart]
  cases hfind : j.state.cache.find? w.kind.view w.key with
  | none => rw [FunctionCache.perform_get_none (j := ⟨j.state.cache, j.log⟩) hfind]
  | some r =>
    rw [FunctionCache.perform_get_some (j := ⟨j.state.cache, j.log⟩) hfind, perform_obtain w hj, request,
      FunctionCache.perform_getOrCompile_some ⟨j.state.cache, j.log⟩ hfind]
    rfl

/-! ## Memoization -/

/-- What was obtained once is what every key that shares it is given, as long as nothing is dropped. -/
theorem obtain_again {v : Wanted} (hsame : w.key.same v.key = true) {j : Journaled (Mapper α)}
    (hj : Keeping schema rules j.state) (between : List (Turn α)) {r : Published (Routine α)}
    (hfirst : ((obtain w).perform j).1 = .ok r)
    (hkept : Undisturbed between (serveTurns between ((obtain w).perform j).2).1) :
    ((obtain v).perform (serveTurns between ((obtain w).perform j).2).2).1 = .ok r := by
  -- the routine is stored when it is obtained, and until something is dropped the entry stays
  obtain ⟨d, log, hstate, hobtained⟩ := obtained w hj.under
  rw [hfirst] at hobtained
  have hstored : ((obtain w).perform j).2.state.cache.entry? w.key = some r := by
    rw [hstate]
    exact hobtained.of_ok.1
  have hkeeping := (obtain_onlyCompiles w j hj).1
  have hextends := extends_serveTurns between hkeeping hkept
  have hlater := keeping_serveTurns between hkeeping
  obtain ⟨d', log', -, hagain⟩ := obtained v hlater.under
  exact hagain.of_entry? ((FunctionCache.entry?_same hsame _).symm.trans (hextends.grows.entry? hstored))

/-- **A mapper compiles a routine once.**  For a mapper after any turns:
- what stands under a key is of the kind that the key is for;
- a routine that is obtained counts as one hit or one compilation; where the request fails the cache is as before, and
  the failure is not that a routine of another kind was in the way; to look for the routine first makes no difference;
- until routines are dropped every request for a key that shares it is given the very routine, whatever is asked
  between;
- until routines are dropped each compilation adds its own entry, and no two entries have keys that share a routine, so
  no key is compiled for twice. -/
theorem obtain_memoized (schema : Schema α) (settings : Settings) (log : List LogRecord) (turns : List (Turn α)) :
    let used := (serveTurns turns ⟨ofSettings schema settings, log⟩).2
    let cache := used.state.cache
    (∀ (w : Wanted) e, cache.entry? w.key = some e → ∃ r, e.routine = w.kind.store r) ∧
      (∀ w : Wanted,
        let asked := (obtain w).perform used
        (∀ r, asked.1 = .ok r → asked.2.state.cache.hits + asked.2.state.cache.compilations =
          cache.hits + cache.compilations + 1) ∧
        (∀ e, asked.1 = .error e → asked.2.state.cache = cache ∧ e ≠ .foreignRoutine) ∧
        (lookFirst w).perform used = asked) ∧
      (∀ (w v : Wanted) (between : List (Turn α)), w.key.same v.key = true →
        let first := (obtain w).perform used
        let later := serveTurns between first.2
        Undisturbed between later.1 → ∀ r, first.1 = .ok r → ((obtain v).perform later.2).1 = .ok r) ∧
      ∀ between : List (Turn α),
        let later := serveTurns between used
        Undisturbed between later.1 → cache.Grows later.2.state.cache ∧
          later.2.state.cache.entries.Pairwise fun x y => x.1.same y.1 = false := by
  intro used cache
  have hused : Keeping schema used.state.rules used.state := keeping_ofTurns schema settings log turns
  refine ⟨fun w e he => ?_, fun w => ?_, ?_, ?_⟩
  · obtain ⟨-, r, -, hr, -⟩ := hused.under.kind_of_entry? he
    exact ⟨r, hr⟩
  · obtain ⟨d, log, hstate, hobtained⟩ := obtained w hused.under
    intro asked
    have hcache : asked.2.state.cache = d := by
      show ((obtain w).perform used).2.state.cache = d
      rw [hstate]
    refine ⟨fun r hr => ?_, fun e he => ?_, perform_lookFirst w hused.under⟩
    · rw [show ((obtain w).perform used).1 = .ok r from hr] at hobtained
      rw [hcache]
      exact hobtained.of_ok.2
    · rw [show ((obtain w).perform used).1 = .error e from he] at hobtained
      obtain ⟨hcompile, hsame⟩ := hobtained.of_error
      refine ⟨hcache.trans hsame, fun hforeign => ?_⟩
      have hmapping := (w.blames_of_compile hcompile).isMapping
      rw [hforeign] at hmapping
      cases hmapping
  · intro w v between hsame first later hkept r hfirst
    exact obtain_again hsame hused between hfirst hkept
  · intro between later hkept
    exact ⟨(extends_serveTurns between hused hkept).grows, (keeping_serveTurns between hused).wellKept.apart⟩

end Mapper

end RowBinding
