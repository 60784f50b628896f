import RowBinding.Proofs.CachedRoutines
import RowBinding.Session
/-!
# Runs of a cache

A cache is asked for routines of any kinds, under any keys, and is emptied now and then.  **Over whole runs an entry
stays as it was published until the cache is emptied, closures run exactly where nothing of the kind is found, and the
counters tell how many closures succeeded and how many lookups gave a routine** (`CacheCall.laws_of_runs`).

To speak of closures that run, a cache is put under watch: beside it stands how many closures ran.  Watching changes
nothing (`CacheCall.perform_watched`).
-/
namespace RowBinding

variable {σ τ β ε : Type}

/-! ## Jobs one after the other -/

namespace Job

/-- Performs jobs one after the other, going on after one that fails. -/
def performAll : List (Job σ β) → Journaled σ → List (Result β) × Journaled σ
  | [], j => ([], j)
  | job :: jobs, j =>
    let (result, i) := job.perform j
    let (results, last) := performAll jobs i
    (result :: results, last)

/-- What each job keeps, all of them keep. -/
theorem performAll_keeps {I : Journaled σ → Prop} : ∀ (jobs : List (Job σ β)) (j : Journaled σ),
    (∀ job ∈ jobs, ∀ i, I i → I (job.perform i).2) → I j → I (performAll jobs j).2
  | [], _, _, hj => hj
  | job :: jobs, j, h, hj =>
    performAll_keeps jobs (job.perform j).2 (fun other hother => h other (List.mem_cons_of_mem job hother))
      (h job List.mem_cons_self j hj)

/-- Jobs that do the same as others to what is seen of the state do so one after the other too. -/
theorem performAll_seen {γ : Type 1} {view : Journaled σ → Journaled τ} {f : γ → Job σ β} {g : γ → Job τ β}
    (h : ∀ c j, (g c).perform (view j) = (((f c).perform j).1, view ((f c).perform j).2)) :
    ∀ (cs : List γ) (j : Journaled σ), performAll (cs.map g) (view j) =
      ((performAll (cs.map f) j).1, view (performAll (cs.map f) j).2)
  | [], _ => rfl
  | c :: cs, j => by
    rw [List.map_cons, List.map_cons, performAll, performAll, h c j]
    dsimp only
    rw [performAll_seen h cs]

end Job

/-! ## What a request does -/

namespace FunctionCache

/-- What a request for a routine can do: it finds one, its closure fails, its routine is published, or its routine is
thrown away because an entry of another kind has the place. -/
inductive Requested (kind : ε → Option β) (store : β → ε) (p : Fingerprint) (compile : Fingerprint → Result β)
    (c : FunctionCache ε) : Result (Published β) → FunctionCache ε → Prop
  | found {r : Published β} (h : c.find? kind p = some r) :
    Requested kind store p compile c (.ok r) { c with hits := c.hits + 1 }
  | failed {e : Failure} (hfind : c.find? kind p = none) (h : compile p = .error e) :
    Requested kind store p compile c (.error e) c
  | published {b : β} (hentry : c.entry? p = none) (h : compile p = .ok b) :
    Requested kind store p compile c (.ok ⟨c.compilations + 1, b⟩)
      ⟨c.entries ++ [(p, ⟨c.compilations + 1, store b⟩)], c.compilations + 1, c.hits⟩
  | foreign {b : β} {e : Published ε} (hentry : c.entry? p = some e) (hkind : kind e.routine = none)
    (h : compile p = .ok b) :
    Requested kind store p compile c (.error .foreignRoutine) { c with compilations := c.compilations + 1 }

variable {kind : ε → Option β} {store : β → ε} {c : FunctionCache ε} {p q : Fingerprint}
  {compile : Fingerprint → Result β}

theorem find?_eq_none (h : c.find? kind p = none) :
    c.entry? p = none ∨ ∃ e, c.entry? p = some e ∧ kind e.routine = none := by
  cases hentry : c.entry? p with
  | none => exact .inl rfl
  | some e =>
    rw [find?, hentry, Option.bind_some] at h
    exact .inr ⟨e, rfl, Option.map_eq_none_iff.1 h⟩

theorem find?_of_entry?_eq_none (hentry : c.entry? p = none) : c.find? kind p = none := by
  rw [find?, hentry, Option.bind_none]

theorem find?_of_foreign {e : Published ε} (hentry : c.entry? p = some e) (hkind : kind e.routine = none) :
    c.find? kind p = none := by
  rw [find?, hentry, Option.bind_some, ofKind?, hkind, Option.map_none]

theorem entries_get (kind : ε → Option β) (p : Fingerprint) (j : Journaled (FunctionCache ε)) :
    ((get kind p).perform j).2.state.entries = j.state.entries := by
  cases hfind : j.state.find? kind p with
  | none => rw [perform_get_none hfind]
  | some r => rw [perform_get_some hfind]

theorem perform_compileAndPublish_foreign {b : β} {e : Published ε} (j : Journaled (FunctionCache ε))
    (hb : compile p = .ok b) (hentry : j.state.entry? p = some e) (hkind : kind e.routine = none) :
    (compileAndPublish kind store p compile).perform j = (.error .foreignRoutine,
      ⟨{ j.state with compilations := j.state.compilations + 1 }, j.log ++ [⟨.debug, "Compiled " ++ p.text⟩]⟩) := by
  let counted : FunctionCache ε := { j.state with compilations := j.state.compilations + 1 }
  have hcounted : counted.entry? p = some e := hentry
  have hpublish : counted.publish p ⟨counted.compilations, store b⟩ = counted := by rw [publish, hcounted]
  have hfind : counted.find? kind p = none := find?_of_foreign hcounted hkind
  unfold compileAndPublish
  rw [hb]
  simp only [Job.perform_bind, Job.perform_get, Job.perform_report, Job.perform_set]
  rw [hpublish, hfind]
  rfl

/-- **Every request does one of these.** -/
theorem requested (kind : ε → Option β) (store : β → ε) (p : Fingerprint) (compile : Fingerprint → Result β)
    (hstore : ∀ b, kind (store b) = some b) (j : Journaled (FunctionCache ε)) :
    Requested kind store p compile j.state ((getOrCompile kind store p compile).perform j).1
      ((getOrCompile kind store p compile).perform j).2.state := by
  cases hfind : j.state.find? kind p with
  | some r =>
    rw [perform_getOrCompile_some j hfind]
    exact .found hfind
  | none =>
    rw [perform_getOrCompile_none j hfind]
    cases hcompile : compile p with
    | error e =>
      rw [perform_compileAndPublish_error j hcompile]
      exact .failed hfind hcompile
    | ok b =>
      -- nothing of the kind is found where the place is free, but also where an entry of another kind has it
      rcases find?_eq_none hfind with hentry | ⟨e, hentry, hkind⟩
      · rw [perform_compileAndPublish_ok j hcompile hentry (hstore b)]
        have hcounted : FunctionCache.entry? { j.state with compilations := j.state.compilations + 1 } p = none :=
          hentry
        dsimp only
        rw [publish, hcounted]
        exact .published hentry hcompile
      · rw [perform_compileAndPublish_foreign j hcompile hentry hkind]
        exact .foreign hentry hkind hcompile

theorem entry?_of_prefix {d : FunctionCache ε} (h : c.entries <+: d.entries) {e : Published ε}
    (he : c.entry? p = some e) : d.entry? p = some e := by
  obtain ⟨new, hnew⟩ := h
  obtain ⟨x, hx, rfl⟩ := Option.map_eq_some_iff.1 he
  rw [FunctionCache.entry?, ← hnew, List.find?_append, hx]
  rfl

theorem entry?_publish (hentry : c.entry? p = none) (e : Published ε) (n m : Nat) :
    FunctionCache.entry? ⟨c.entries ++ [(p, e)], n, m⟩ p = some e := by
  rw [FunctionCache.entry?, List.find?_append, Option.map_eq_none_iff.1 hentry, List.find?_cons, p.same_refl]
  rfl

namespace Requested

variable {result : Result (Published β)} {d : FunctionCache ε} {r : Published β}

/-- No request replaces or removes an entry. -/
theorem entries (h : Requested kind store p compile c result d) : c.entries <+: d.entries := by
  cases h with
  | published => exact List.prefix_append _ _
  | _ => exact List.prefix_refl _

theorem compilations_eq (h : Requested kind store p compile c result d) : d.compilations = c.compilations +
    if (c.find? kind p).isSome then 0 else if (compile p).isOk then 1 else 0 := by
  cases h with
  | found hfind => rw [hfind]; rfl
  | failed hfind he => rw [hfind, he]; rfl
  | published hentry hb => rw [find?_of_entry?_eq_none hentry, hb]; rfl
  | foreign hentry hkind hb => rw [find?_of_foreign hentry hkind, hb]; rfl

theorem hits_eq (h : Requested kind store p compile c result d) :
    d.hits = c.hits + if (c.find? kind p).isSome then 1 else 0 := by
  cases h with
  | found hfind => rw [hfind]; rfl
  | failed hfind _ => rw [hfind]; rfl
  | published hentry _ => rw [find?_of_entry?_eq_none hentry]; rfl
  | foreign hentry hkind _ => rw [find?_of_foreign hentry hkind]; rfl

/-- **A successful request is counted once**, as a hit or as a compilation. -/
theorem counted (h : Requested kind store p compile c (.ok r) d) :
    d.hits + d.compilations = c.hits + c.compilations + 1 := by
  cases h with
  | found => exact Nat.succ_add _ _
  | published => rfl

/-- **What is returned is what is stored afterwards.** -/
theorem stored (h : Requested kind store p compile c (.ok r) d) (hview : ∀ e b, kind e = some b → e = store b) :
    d.entry? p = some (r.map store) := by
  cases h with
  | found hfind =>
    obtain ⟨e, he, hr⟩ := Option.bind_eq_some_iff.1 hfind
    obtain ⟨b, hb, rfl⟩ := Option.map_eq_some_iff.1 hr
    refine Eq.trans he (congrArg some ?_)
    rw [Published.map, ← hview _ _ hb]
  | published hentry _ => exact entry?_publish hentry _ _ _

theorem made (h : Requested kind store p compile c (.ok r) d) (hfind : c.find? kind p = none) :
    compile p = .ok r.routine := by
  cases h with
  | found hfound => cases hfind.symm.trans hfound
  | published _ hb => exact hb

theorem of_failed (h : Requested kind store p compile c result d) (hfind : c.find? kind p = none) {e : Failure}
    (hcompile : compile p = .error e) : result = .error e ∧ d = c := by
  cases h with
  | found hfound => cases hfind.symm.trans hfound
  | failed _ he => exact ⟨congrArg _ (Except.error.inj (he.symm.trans hcompile)), rfl⟩
  | published _ hb => cases hb.symm.trans hcompile
  | foreign _ _ hb => cases hb.symm.trans hcompile

/-- A request for a place that an entry of another kind has fails, and the entry stays. -/
theorem of_foreign (h : Requested kind store p compile c result d) {e : Published ε} (hentry : c.entry? p = some e)
    (hkind : kind e.routine = none) :
    d.entries = c.entries ∧ result = (compile p >>= fun _ => .error .foreignRoutine) := by
  cases h with
  | found hfound => cases (find?_of_foreign hentry hkind).symm.trans hfound
  | failed _ he => exact ⟨rfl, by rw [he]; rfl⟩
  | published hnone _ => cases hnone.symm.trans hentry
  | foreign _ _ hb => exact ⟨rfl, by rw [hb]; rfl⟩

end Requested

/-! ### Keys and serials -/

/-- No key is stored twice, the routines stand in the order of the compilations that made them, and each was made by a
compilation that is counted. -/
structure WellKept (c : FunctionCache ε) : Prop where
  keys : ∀ x ∈ c.entries, ∀ y ∈ c.entries, x.1.same y.1 = true → x = y
  serials : c.entries.Pairwise fun x y => x.2.serial < y.2.serial
  made : ∀ x ∈ c.entries, x.2.serial ≤ c.compilations
  size_le : c.size ≤ c.compilations

theorem wellKept_reset (c : FunctionCache ε) : c.reset.WellKept :=
  ⟨fun _ hx => by (cases hx), .nil, fun _ hx => by (cases hx), Nat.zero_le c.compilations⟩

theorem wellKept_empty : (empty : FunctionCache ε).WellKept := wellKept_reset empty

theorem WellKept.counted (h : c.WellKept) (hits : Nat) : WellKept { c with hits := hits } :=
  ⟨h.keys, h.serials, h.made, h.size_le⟩

theorem same_eq_false_of_entry?_eq_none (hentry : c.entry? p = none) {x : Fingerprint × Published ε}
    (hx : x ∈ c.entries) : x.1.same p = false :=
  Bool.eq_false_iff.2 (List.find?_eq_none.1 (Option.map_eq_none_iff.1 hentry) x hx)

theorem WellKept.published (h : c.WellKept) (hentry : c.entry? p = none) (e : ε) :
    WellKept ⟨c.entries ++ [(p, ⟨c.compilations + 1, e⟩)], c.compilations + 1, c.hits⟩ := by
  refine ⟨?_, ?_, ?_, ?_⟩
  · intro x hx y hy hxy
    rcases List.mem_append.1 hx with hx | hx <;> rcases List.mem_append.1 hy with hy | hy
    · exact h.keys x hx y hy hxy
    · rw [List.mem_singleton.1 hy, same_eq_false_of_entry?_eq_none hentry hx] at hxy
      cases hxy
    · rw [List.mem_singleton.1 hx] at hxy
      cases (same_eq_false_of_entry?_eq_none hentry hy).symm.trans (Fingerprint.same_symm hxy)
    · rw [List.mem_singleton.1 hx, List.mem_singleton.1 hy]
  · refine List.pairwise_append.2 ⟨h.serials, List.pairwise_singleton _ _, fun x hx y hy => ?_⟩
    rw [List.mem_singleton.1 hy]
    exact Nat.lt_succ_of_le (h.made x hx)
  · intro x hx
    rcases List.mem_append.1 hx with hx | hx
    · exact Nat.le_succ_of_le (h.made x hx)
    · rw [List.mem_singleton.1 hx]
  · rw [size, List.length_append]
    exact Nat.succ_le_succ h.size_le

/-- **A request leaves a cache well kept.** -/
theorem Requested.wellKept {result : Result (Published β)} {d : FunctionCache ε}
    (h : Requested kind store p compile c result d) (hc : c.WellKept) : d.WellKept := by
  cases h with
  | found => exact hc.counted _
  | failed => exact hc
  | published hentry => exact hc.published hentry _
  | foreign => exact ⟨hc.keys, hc.serials, fun x hx => Nat.le_succ_of_le (hc.made x hx), Nat.le_succ_of_le hc.size_le⟩

theorem WellKept.apart (h : c.WellKept) : c.entries.Pairwise fun x y => x.1.same y.1 = false := by
  refine h.serials.imp_of_mem fun {x y} hx hy hserial => Bool.eq_false_iff.2 fun hsame => ?_
  rw [h.keys x hx y hy hsame] at hserial
  exact Nat.lt_irrefl _ hserial

theorem WellKept.entry?_of_mem (h : c.WellKept) {x : Fingerprint × Published ε} (hx : x ∈ c.entries)
    (hp : x.1.same p = true) : c.entry? p = some x.2 := by
  cases hfound : c.entries.find? (fun e => e.1.same p) with
  | none => cases hp.symm.trans (Bool.eq_false_iff.2 (List.find?_eq_none.1 hfound x hx))
  | some y =>
    have hy : y.1.same p = true := List.find?_some (p := fun e : Fingerprint × Published ε => e.1.same p) hfound
    have hyx : y = x := h.keys y (List.mem_of_find?_eq_some hfound) x hx
      (Fingerprint.same_trans hy (Fingerprint.same_symm hp))
    rw [FunctionCache.entry?, hfound, hyx]
    rfl

/-- A well-kept cache finds a routine exactly if an entry of the kind is stored under a key that is the same. -/
theorem WellKept.find?_isSome (h : c.WellKept) : (c.find? kind p).isSome = true ↔
    ∃ x ∈ c.entries, x.1.same p = true ∧ (kind x.2.routine).isSome = true := by
  constructor
  · intro hfound
    obtain ⟨r, hr⟩ := Option.isSome_iff_exists.1 hfound
    obtain ⟨e, he, hr⟩ := Option.bind_eq_some_iff.1 hr
    obtain ⟨x, hx, rfl⟩ := Option.map_eq_some_iff.1 he
    obtain ⟨b, hb, -⟩ := Option.map_eq_some_iff.1 hr
    have hp : x.1.same p = true := List.find?_some (p := fun e : Fingerprint × Published ε => e.1.same p) hx
    exact ⟨x, List.mem_of_find?_eq_some hx, hp, Option.isSome_iff_exists.2 ⟨b, hb⟩⟩
  · rintro ⟨x, hx, hp, hkind⟩
    rw [find?, h.entry?_of_mem hx hp, Option.bind_some, ofKind?, Option.isSome_map, hkind]

end FunctionCache

/-! ## A cache under watch -/

/-- A kind of routines among those that a cache holds: how one is seen in an entry, and how it is stored. -/
structure RoutineKind (ε : Type) where
  Routine : Type
  view : ε → Option Routine
  store : Routine → ε
  /-- An entry is seen as a routine exactly if it is that routine stored. -/
  view_eq_some : ∀ e r, view e = some r ↔ e = store r

/-- A call of a cache. -/
inductive CacheCall (ε : Type) where
  | get (k : RoutineKind ε) (p : Fingerprint)
  | getOrCompile (k : RoutineKind ε) (p : Fingerprint) (compile : Fingerprint → Result k.Routine)
  | reset

/-- A cache, and beside it what has been seen of it: how many lookups gave a routine, how many closures ran, and how
many of these came to a routine. -/
structure Watched (ε : Type) where
  cache : FunctionCache ε
  found : Nat
  ran : Nat
  succeeded : Nat

namespace Watched

def start : Watched ε := ⟨.empty, 0, 0, 0⟩

def unwatched (j : Journaled (Watched ε)) : Journaled (FunctionCache ε) := ⟨j.state.cache, j.log⟩

def onCache (job : Job (FunctionCache ε) β) : Job (Watched ε) β :=
  job.onPart Watched.cache fun c w => { w with cache := c }

/-- Looks a routine up; one that is given is seen. -/
def get (k : RoutineKind ε) (p : Fingerprint) : Job (Watched ε) (Option (Published k.Routine)) := do
  let r ← onCache (FunctionCache.get k.view p)
  let w ← Job.get
  Job.set { w with found := w.found + if r.isSome then 1 else 0 }
  return r

/-- Runs a closure, which is seen. -/
def run (compile : Fingerprint → Result β) (p : Fingerprint) : Job (Watched ε) (Result β) := do
  let made := compile p
  let w ← Job.get
  Job.set { w with ran := w.ran + 1, succeeded := w.succeeded + if made.isOk then 1 else 0 }
  return made

def getOrCompile (k : RoutineKind ε) (p : Fingerprint) (compile : Fingerprint → Result k.Routine) :
    Job (Watched ε) (Published k.Routine) := do
  match ← get k p with
  | some r => return r
  | none =>
    let made ← run compile p
    onCache (FunctionCache.compileAndPublish k.view k.store p fun _ => made)

variable {k : RoutineKind ε} {p : Fingerprint} {j : Journaled (Watched ε)}

theorem perform_get_some {r : Published k.Routine} (h : j.state.cache.find? k.view p = some r) :
    (get k p).perform j = (.ok (some r), ⟨{ j.state with
      cache := { j.state.cache with hits := j.state.cache.hits + 1 }, found := j.state.found + 1 },
      j.log ++ [⟨.trace, "Cache hit for " ++ p.text⟩]⟩) := by
  unfold get onCache
  rw [Job.perform_bind, Job.perform_onPart, FunctionCache.perform_get_some (j := ⟨j.state.cache, j.log⟩) h]
  rfl

theorem perform_get_none (h : j.state.cache.find? k.view p = none) : (get k p).perform j = (.ok none, j) := by
  unfold get onCache
  rw [Job.perform_bind, Job.perform_onPart, FunctionCache.perform_get_none (j := ⟨j.state.cache, j.log⟩) h]
  rfl

/-- **A request under watch is a request.**  Its closure is seen to run where nothing of the kind is found, and a lookup
is seen to give a routine elsewhere. -/
theorem perform_getOrCompile (k : RoutineKind ε) (p : Fingerprint) (compile : Fingerprint → Result k.Routine)
    (j : Journaled (Watched ε)) : (getOrCompile k p compile).perform j =
      let asked := (FunctionCache.getOrCompile k.view k.store p compile).perform (unwatched j)
      let hit := (j.state.cache.find? k.view p).isSome
      (asked.1, ⟨⟨asked.2.state, j.state.found + (if hit then 1 else 0), j.state.ran + (if hit then 0 else 1),
        j.state.succeeded + (if hit then 0 else if (compile p).isOk then 1 else 0)⟩, asked.2.log⟩) := by
  unfold getOrCompile
  cases hfind : j.state.cache.find? k.view p with
  | some r =>
    rw [Job.perform_bind, perform_get_some hfind, FunctionCache.perform_getOrCompile_some (unwatched j) hfind]
    rfl
  | none =>
    rw [Job.perform_bind, perform_get_none hfind, FunctionCache.perform_getOrCompile_none (unwatched j) hfind]
    rfl

end Watched

/-! ## Calls -/

namespace RoutineKind

theorem view_store (k : RoutineKind ε) (r : k.Routine) : k.view (k.store r) = some r := (k.view_eq_some _ r).2 rfl

theorem eq_store (k : RoutineKind ε) (e : ε) (r : k.Routine) (h : k.view e = some r) : e = k.store r :=
  (k.view_eq_some e r).1 h

end RoutineKind

namespace CacheCall

/-- What a cache answers to a call.  Routines of all kinds are shown as they are stored. -/
def serve : CacheCall ε → Job (FunctionCache ε) (Option (Published ε))
  | .get k p => do return (← FunctionCache.get k.view p).map (Published.map k.store)
  | .getOrCompile k p compile => do
    return some (Published.map k.store (← FunctionCache.getOrCompile k.view k.store p compile))
  | .reset => do
    Job.set (← Job.get).reset
    return none

def watched : CacheCall ε → Job (Watched ε) (Option (Published ε))
  | .get k p => do return (← Watched.get k p).map (Published.map k.store)
  | .getOrCompile k p compile => do return some (Published.map k.store (← Watched.getOrCompile k p compile))
  | .reset => do
    let w ← Job.get
    Job.set { w with cache := w.cache.reset }
    return none

/-- **Watching changes nothing.** -/
theorem perform_watched (call : CacheCall ε) (j : Journaled (Watched ε)) :
    call.serve.perform (Watched.unwatched j) =
      ((call.watched.perform j).1, Watched.unwatched (call.watched.perform j).2) := by
  cases call with
  | reset => rfl
  | get k p =>
    rw [serve, watched, Job.perform_returning, Job.perform_returning]
    cases hfind : j.state.cache.find? k.view p with
    | none => rw [Watched.perform_get_none hfind, FunctionCache.perform_get_none (j := Watched.unwatched j) hfind]
    | some r =>
      rw [Watched.perform_get_some hfind, FunctionCache.perform_get_some (j := Watched.unwatched j) hfind]
      rfl
  | getOrCompile k p compile =>
    rw [serve, watched, Job.perform_returning, Job.perform_returning, Watched.perform_getOrCompile]
    rfl

end CacheCall

namespace Watched

/-- The counters of a cache tell what has been seen of it. -/
structure Tallied (w : Watched ε) : Prop where
  compilations_eq : w.cache.compilations = w.succeeded
  hits_eq : w.cache.hits = w.found
  wellKept : w.cache.WellKept

theorem tallied_start : (start : Watched ε).Tallied := ⟨rfl, rfl, FunctionCache.wellKept_empty⟩

theorem Tallied.getOrCompile {j : Journaled (Watched ε)} (h : j.state.Tallied) (k : RoutineKind ε) (p : Fingerprint)
    (compile : Fingerprint → Result k.Routine) : ((getOrCompile k p compile).perform j).2.state.Tallied := by
  have hrequest := FunctionCache.requested k.view k.store p compile k.view_store (unwatched j)
  rw [perform_getOrCompile]
  refine ⟨?_, ?_, hrequest.wellKept h.wellKept⟩
  · exact hrequest.compilations_eq.trans (congrArg (· + _) h.compilations_eq)
  · exact hrequest.hits_eq.trans (congrArg (· + _) h.hits_eq)

theorem Tallied.get {j : Journaled (Watched ε)} (h : j.state.Tallied) (k : RoutineKind ε) (p : Fingerprint) :
    ((get k p).perform j).2.state.Tallied := by
  cases hfind : j.state.cache.find? k.view p with
  | none => rwa [perform_get_none hfind]
  | some r =>
    rw [perform_get_some hfind]
    exact ⟨h.compilations_eq, congrArg (· + 1) h.hits_eq, h.wellKept.counted _⟩

/-- **Every call keeps the tally.** -/
theorem Tallied.watched {j : Journaled (Watched ε)} (h : j.state.Tallied) (call : CacheCall ε) :
    (call.watched.perform j).2.state.Tallied := by
  cases call with
  | reset => exact ⟨h.compilations_eq, h.hits_eq, FunctionCache.wellKept_reset _⟩
  | get k p =>
    rw [CacheCall.watched, Job.perform_returning]
    exact h.get k p
  | getOrCompile k p compile =>
    rw [CacheCall.watched, Job.perform_returning]
    exact h.getOrCompile k p compile

end Watched

namespace CacheCall

theorem entries_serve {call : CacheCall ε} (h : call ≠ .reset) (j : Journaled (FunctionCache ε)) :
    j.state.entries <+: (call.serve.perform j).2.state.entries := by
  cases call with
  | reset => exact absurd rfl h
  | get k p =>
    rw [serve, Job.perform_returning]
    exact ⟨[], (List.append_nil _).trans (FunctionCache.entries_get k.view p j).symm⟩
  | getOrCompile k p compile =>
    rw [serve, Job.perform_returning]
    exact (FunctionCache.requested k.view k.store p compile k.view_store j).entries

/-- **Calls that do not empty the cache keep every entry.** -/
theorem entries_performAll {calls : List (CacheCall ε)} (h : ∀ call ∈ calls, call ≠ .reset)
    (j : Journaled (FunctionCache ε)) :
    j.state.entries <+: (Job.performAll (calls.map serve) j).2.state.entries := by
  refine Job.performAll_keeps (I := fun i => j.state.entries <+: i.state.entries) _ j ?_ (List.prefix_refl _)
  intro job hjob i hi
  obtain ⟨call, hcall, rfl⟩ := List.mem_map.1 hjob
  exact hi.trans (entries_serve (h call hcall) i)

/-- **After any calls the counters tell what has been seen.** -/
theorem tallied_performAll (calls : List (CacheCall ε)) (log : List LogRecord) :
    (Job.performAll (calls.map watched) ⟨.start, log⟩).2.state.Tallied := by
  refine Job.performAll_keeps (I := fun i => Watched.Tallied i.state) _ _ ?_ Watched.tallied_start
  intro job hjob i hi
  obtain ⟨call, -, rfl⟩ := List.mem_map.1 hjob
  exact hi.watched call

/-- **The laws of a cache.**  After any calls, with `run` what they gave under watch, which is what they give without:
- compilations count the closures that came to a routine, hits the lookups that gave one, and there are no more entries
  than compilations;
- an entry stays under its keys, as it is, through all calls that do not empty the cache;
- the closure of a next request runs exactly if no entry of the kind stands under a key that is the same, and where one
  stands the request does not depend on the closure;
- if it runs and fails, the request fails with it, and the cache is as before;
- if an entry of another kind stands there, the request fails whatever the closure comes to, and the entries are as
  before;
- if the request succeeds, it returns what is then stored, which is what the closure made if it ran, and one more hit or
  compilation is counted. -/
theorem laws_of_runs (calls : List (CacheCall ε)) (log : List LogRecord) :
    let run := Job.performAll (calls.map watched) ⟨.start, log⟩
    let cache := run.2.state.cache
    Job.performAll (calls.map serve) ⟨.empty, log⟩ = (run.1, Watched.unwatched run.2) ∧
      (cache.compilations = run.2.state.succeeded ∧ cache.hits = run.2.state.found ∧ cache.size ≤ cache.compilations) ∧
      (∀ more : List (CacheCall ε), (∀ call ∈ more, call ≠ .reset) → ∀ p e, cache.entry? p = some e →
        (Job.performAll (more.map serve) (Watched.unwatched run.2)).2.state.entry? p = some e) ∧
      ∀ (k : RoutineKind ε) (p : Fingerprint) (compile : Fingerprint → Result k.Routine),
        let asked := (FunctionCache.getOrCompile k.view k.store p compile).perform (Watched.unwatched run.2)
        let seen := (Watched.getOrCompile k p compile).perform run.2
        let stored := ∃ x ∈ cache.entries, x.1.same p = true ∧ ∃ r, x.2.routine = k.store r
        asked = (seen.1, Watched.unwatched seen.2) ∧
          (stored → seen.2.state.ran = run.2.state.ran ∧ ∀ other : Fingerprint → Result k.Routine,
            (FunctionCache.getOrCompile k.view k.store p other).perform (Watched.unwatched run.2) = asked) ∧
          (¬ stored → seen.2.state.ran = run.2.state.ran + 1) ∧
          (∀ e, ¬ stored → compile p = .error e → asked.1 = .error e ∧ asked.2.state = cache) ∧
          (∀ x ∈ cache.entries, x.1.same p = true → (∀ r, x.2.routine ≠ k.store r) →
            asked.2.state.entries = cache.entries ∧ asked.1 = (compile p >>= fun _ => .error .foreignRoutine)) ∧
          ∀ r, asked.1 = .ok r → asked.2.state.entry? p = some (r.map k.store) ∧
            (¬ stored → compile p = .ok r.routine) ∧
            asked.2.state.hits + asked.2.state.compilations = cache.hits + cache.compilations + 1 := by
  intro run cache
  have htally : run.2.state.Tallied := tallied_performAll calls log
  have hcache : cache.WellKept := htally.wellKept
  refine ⟨Job.performAll_seen perform_watched calls ⟨.start, log⟩,
    ⟨htally.compilations_eq, htally.hits_eq, hcache.size_le⟩,
    fun more hmore p e he => FunctionCache.entry?_of_prefix (entries_performAll hmore (Watched.unwatched run.2)) he, ?_⟩
  -- all that is left is said of one request more, and `Requested` knows what it can do
  intro k p compile asked seen stored
  have hseen : seen = _ := Watched.perform_getOrCompile k p compile run.2
  have hrequest : FunctionCache.Requested k.view k.store p compile cache asked.1 asked.2.state :=
    FunctionCache.requested k.view k.store p compile k.view_store (Watched.unwatched run.2)
  have hstored : stored ↔ (cache.find? k.view p).isSome = true := by
    rw [hcache.find?_isSome]
    simp only [stored, Option.isSome_iff_exists, k.view_eq_some]
  have hnone : ¬ stored → cache.find? k.view p = none :=
    fun h => Option.not_isSome_iff_eq_none.1 fun hfound => h (hstored.2 hfound)
  have hran : seen.2.state.ran = run.2.state.ran + if (cache.find? k.view p).isSome then 0 else 1 := by rw [hseen]
  refine ⟨?_, ?_, ?_, ?_, ?_, ?_⟩
  · rw [hseen]
    rfl
  · intro h
    obtain ⟨r, hr⟩ := Option.isSome_iff_exists.1 (hstored.1 h)
    refine ⟨by rw [hran, hr]; rfl, fun other => ?_⟩
    rw [FunctionCache.perform_getOrCompile_some (Watched.unwatched run.2) hr]
    exact (FunctionCache.perform_getOrCompile_some (Watched.unwatched run.2) hr).symm
  · intro h
    rw [hran, hnone h]
    rfl
  · intro e h he
    exact hrequest.of_failed (hnone h) he
  · intro x hx hp hkind
    refine hrequest.of_foreign (hcache.entry?_of_mem hx hp) (Option.eq_none_iff_forall_ne_some.2 fun r hr => ?_)
    exact hkind r (k.eq_store _ r hr)
  · intro r hr
    rw [hr] at hrequest
    exact ⟨hrequest.stored k.eq_store, fun h => hrequest.made (hnone h), hrequest.counted⟩

end CacheCall

end RowBinding
