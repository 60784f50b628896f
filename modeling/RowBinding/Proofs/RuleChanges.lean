import RowBinding.Proofs.CacheRuns
import RowBinding.Proofs.CacheTransparency
/-!
# Rules change one entry at a time

Rules are added to, and handlers are taken out again, one after the other, and a refused change is as if it had not been
asked for.  **What is found in a place is what was last put there, unless it was taken out since**
(`Rules.find?_after_iff`); names of members are told apart but for the case of ASCII letters.  A mapper does with its
rules what the rules do alone, and has no routines after a change that is not refused.
-/
namespace RowBinding

variable {α β : Type}

/-! ## Places -/

/-- A place in the rules. -/
inductive RuleKey where
  | valueHandler (owner : TypeName) (member : String)
  | objectHook (owner : TypeName)
  | memberStorage (owner : TypeName) (member : String)
  | typeStorage (t : ValueType)

/-- What may stand in a place. -/
def RuleKey.Entry (α : Type) : RuleKey → Type
  | valueHandler .. => ValueHandler
  | objectHook _ => ObjectHook α
  | memberStorage .. | typeStorage _ => StorageType

/-- What is found in a place. -/
def Rules.find? (r : Rules α) : (k : RuleKey) → Option (k.Entry α)
  | .valueHandler owner member => r.valueHandler? owner member
  | .objectHook owner => r.objectHook? owner
  | .memberStorage owner member => r.memberStorage? owner member
  | .typeStorage t => r.typeStorage? t

/-! ## Changes -/

/-- A change of the rules. -/
inductive RuleChange (α : Type) where
  | addValueHandler (owner : TypeName) (member : String) (handler : ValueHandler) (force : Bool)
  | removeValueHandler (owner : TypeName) (member : String)
  | addObjectHook (owner : TypeName) (hook : ObjectHook α) (force : Bool)
  | addMemberStorage (owner : TypeName) (member : String) (storage : StorageType) (force : Bool)
  | addTypeStorage (t : ValueType) (storage : StorageType) (force : Bool)
  | setSettings (s : Settings)

namespace RuleChange

/-- The rules after the change, unless it is refused. -/
def outcome (r : Rules α) : RuleChange α → Result (Rules α)
  | addValueHandler owner member handler force => r.addValueHandler owner member handler force
  | removeValueHandler owner member => .ok (r.removeValueHandler owner member).2
  | addObjectHook owner hook force => r.addObjectHook owner hook force
  | addMemberStorage owner member storage force => r.addMemberStorage owner member storage force
  | addTypeStorage t storage force => r.addTypeStorage t storage force
  | setSettings s => .ok { r with settings := s }

/-- What the change leaves in a place, if it has to do with the place: an entry, or nothing. -/
def writes : RuleChange α → (k : RuleKey) → Option (Option (k.Entry α))
  | addValueHandler owner member handler _, .valueHandler owner' member' =>
    if owner' = owner ∧ Text.sameName member' member then some (some handler) else none
  | removeValueHandler owner member, .valueHandler owner' member' =>
    if owner' = owner ∧ Text.sameName member' member then some none else none
  | addObjectHook owner hook _, .objectHook owner' => if owner' = owner then some (some hook) else none
  | addMemberStorage owner member storage _, .memberStorage owner' member' =>
    if owner' = owner ∧ Text.sameName member' member then some (some storage) else none
  | addTypeStorage t storage _, .typeStorage t' => if t' = t then some (some storage) else none
  | _, _ => none

/-- Nothing can stand in the way of the change: it is an addition that insists, or no addition. -/
def insists : RuleChange α → Bool
  | addValueHandler _ _ _ force | addObjectHook _ _ force | addMemberStorage _ _ _ force | addTypeStorage _ _ force => force
  | removeValueHandler .. | setSettings _ => true

/-- What stands in the way of an addition that does not insist: any handler or hook in its place, and any other storage
type. -/
inductive Blocked (r : Rules α) : RuleChange α → Registration → Prop
  | valueHandler {owner member handler existing} (h : r.valueHandler? owner member = some existing) :
    Blocked r (.addValueHandler owner member handler false) (.valueHandler owner member)
  | objectHook {owner hook existing} (h : r.objectHook? owner = some existing) :
    Blocked r (.addObjectHook owner hook false) (.objectHook owner)
  | memberStorage {owner member storage existing} (h : r.memberStorage? owner member = some existing)
    (hother : existing ≠ storage) :
    Blocked r (.addMemberStorage owner member storage false) (.memberStorage existing owner member)
  | typeStorage {t storage existing} (h : r.typeStorage? t = some existing) (hother : existing ≠ storage) :
    Blocked r (.addTypeStorage t storage false) (.typeStorage existing t)

/-- What stands in the way, if anything does. -/
def obstacle? (r : Rules α) : RuleChange α → Option Registration
  | addValueHandler owner member _ force =>
    if force then none else (r.valueHandler? owner member).map fun _ => .valueHandler owner member
  | addObjectHook owner _ force => if force then none else (r.objectHook? owner).map fun _ => .objectHook owner
  | addMemberStorage owner member storage force =>
    (Rules.contrary? force (r.memberStorage? owner member) storage).map (.memberStorage · owner member)
  | addTypeStorage t storage force => (Rules.contrary? force (r.typeStorage? t) storage).map (.typeStorage · t)
  | removeValueHandler .. | setSettings _ => none

/-- The rules after the change where nothing stands in its way. -/
def carried (r : Rules α) : RuleChange α → Rules α
  | addValueHandler owner member handler _ =>
    { r with valueHandlers := r.valueHandlers.insert (memberKey owner member) handler }
  | removeValueHandler owner member => { r with valueHandlers := r.valueHandlers.erase (memberKey owner member) }
  | addObjectHook owner hook _ => { r with objectHooks := r.objectHooks.insert owner hook }
  | addMemberStorage owner member storage _ =>
    { r with memberStorage := r.memberStorage.insert (memberKey owner member) storage }
  | addTypeStorage t storage _ => { r with typeStorage := r.typeStorage.insert t storage }
  | setSettings s => { r with settings := s }

end RuleChange

namespace Rules

variable {r s : Rules α}

/-- The rules after some changes. -/
def after (r : Rules α) : List (RuleChange α) → Rules α
  | [] => r
  | c :: changes =>
    match c.outcome r with
    | .ok next => next.after changes
    | .error _ => r.after changes

/-- Those of the changes that are not refused. -/
def accepted (r : Rules α) : List (RuleChange α) → List (RuleChange α)
  | [] => []
  | c :: changes =>
    match c.outcome r with
    | .ok next => c :: next.accepted changes
    | .error _ => r.accepted changes

/-! ## One change -/

theorem memberKey_eq_iff {owner owner' : TypeName} {member member' : String} :
    memberKey owner' member' = memberKey owner member ↔ owner' = owner ∧ Text.sameName member' member = true := by
  rw [memberKey, memberKey, Prod.mk.injEq, Text.sameName_iff]

theorem find?_insert_member {ν : Type} (entries : Registry MemberKey ν) (owner owner' : TypeName) (member member' : String)
    (v : ν) : (entries.insert (memberKey owner member) v).find? (memberKey owner' member') =
      (if owner' = owner ∧ Text.sameName member' member then some (some v) else none).getD
        (entries.find? (memberKey owner' member')) := by
  rw [Registry.find?_insert, if_congr memberKey_eq_iff rfl rfl]
  split <;> rfl

theorem find?_erase_member {ν : Type} (entries : Registry MemberKey ν) (owner owner' : TypeName) (member member' : String) :
    (entries.erase (memberKey owner member)).find? (memberKey owner' member') =
      (if owner' = owner ∧ Text.sameName member' member then some none else none).getD
        (entries.find? (memberKey owner' member')) := by
  rw [Registry.find?_erase, if_congr memberKey_eq_iff rfl rfl]
  split <;> rfl

theorem find?_insert_key {κ ν : Type} [DecidableEq κ] (entries : Registry κ ν) (key key' : κ) (v : ν) :
    (entries.insert key v).find? key' = (if key' = key then some (some v) else none).getD (entries.find? key') := by
  rw [Registry.find?_insert]
  split <;> rfl

theorem contrary?_eq_some_iff {force : Bool} {existing : Option StorageType} {new found : StorageType} :
    contrary? force existing new = some found ↔ force = false ∧ existing = some found ∧ found ≠ new := by
  cases force with
  | true => simp [contrary?]
  | false => simp [contrary?, Option.filter_eq_some_iff]

end Rules

namespace RuleChange

theorem outcome_eq (r : Rules α) (c : RuleChange α) : c.outcome r =
    match c.obstacle? r with
    | some existing => .error (.registrationConflict existing)
    | none => .ok (c.carried r) := by
  cases c with
  | addValueHandler owner member handler force =>
    simp only [outcome, obstacle?, Rules.addValueHandler]
    cases force <;> cases r.valueHandler? owner member <;> rfl
  | addObjectHook owner hook force =>
    simp only [outcome, obstacle?, Rules.addObjectHook]
    cases force <;> cases r.objectHook? owner <;> rfl
  | addMemberStorage owner member storage force =>
    simp only [outcome, obstacle?, Rules.addMemberStorage]
    cases Rules.contrary? force (r.memberStorage? owner member) storage <;> rfl
  | addTypeStorage t storage force =>
    simp only [outcome, obstacle?, Rules.addTypeStorage]
    cases Rules.contrary? force (r.typeStorage? t) storage <;> rfl
  | removeValueHandler owner member => rfl
  | setSettings s => rfl

/-- **What a change writes is found afterwards, and everything else is found as before.** -/
theorem find?_carried (r : Rules α) (c : RuleChange α) (k : RuleKey) :
    (c.carried r).find? k = (c.writes k).getD (r.find? k) := by
  cases c with
  | addValueHandler owner member handler force =>
    cases k with
    | valueHandler owner' member' => exact Rules.find?_insert_member r.valueHandlers owner owner' member member' handler
    | _ => rfl
  | removeValueHandler owner member =>
    cases k with
    | valueHandler owner' member' => exact Rules.find?_erase_member r.valueHandlers owner owner' member member'
    | _ => rfl
  | addObjectHook owner hook force =>
    cases k with
    | objectHook owner' => exact Rules.find?_insert_key r.objectHooks owner owner' hook
    | _ => rfl
  | addMemberStorage owner member storage force =>
    cases k with
    | memberStorage owner' member' => exact Rules.find?_insert_member r.memberStorage owner owner' member member' storage
    | _ => rfl
  | addTypeStorage t storage force =>
    cases k with
    | typeStorage t' => exact Rules.find?_insert_key r.typeStorage t t' storage
    | _ => rfl
  | setSettings s => cases k <;> rfl

theorem obstacle?_eq_some_iff {r : Rules α} {c : RuleChange α} {existing : Registration} :
    c.obstacle? r = some existing ↔ c.Blocked r existing := by
  constructor
  · intro h
    cases c with
    | addValueHandler owner member handler force =>
      cases force with
      | true => cases h
      | false =>
        obtain ⟨found, hfound, rfl⟩ := Option.map_eq_some_iff.1 h
        exact .valueHandler hfound
    | addObjectHook owner hook force =>
      cases force with
      | true => cases h
      | false =>
        obtain ⟨found, hfound, rfl⟩ := Option.map_eq_some_iff.1 h
        exact .objectHook hfound
    | addMemberStorage owner member storage force =>
      obtain ⟨found, hcontrary, rfl⟩ := Option.map_eq_some_iff.1 h
      obtain ⟨rfl, hfound, hother⟩ := Rules.contrary?_eq_some_iff.1 hcontrary
      exact .memberStorage hfound hother
    | addTypeStorage t storage force =>
      obtain ⟨found, hcontrary, rfl⟩ := Option.map_eq_some_iff.1 h
      obtain ⟨rfl, hfound, hother⟩ := Rules.contrary?_eq_some_iff.1 hcontrary
      exact .typeStorage hfound hother
    | removeValueHandler owner member => cases h
    | setSettings s => cases h
  · intro h
    cases h with
    | valueHandler hfound => exact Option.map_eq_some_iff.2 ⟨_, hfound, rfl⟩
    | objectHook hfound => exact Option.map_eq_some_iff.2 ⟨_, hfound, rfl⟩
    | memberStorage hfound hother =>
      exact Option.map_eq_some_iff.2 ⟨_, Rules.contrary?_eq_some_iff.2 ⟨rfl, hfound, hother⟩, rfl⟩
    | typeStorage hfound hother =>
      exact Option.map_eq_some_iff.2 ⟨_, Rules.contrary?_eq_some_iff.2 ⟨rfl, hfound, hother⟩, rfl⟩

/-- **A change is refused exactly when something stands in its way**, and that is what the failure names. -/
theorem outcome_eq_error_iff (r : Rules α) (c : RuleChange α) (e : Failure) :
    c.outcome r = .error e ↔ ∃ existing, c.Blocked r existing ∧ e = .registrationConflict existing := by
  rw [outcome_eq]
  constructor
  · intro h
    cases hobstacle : c.obstacle? r with
    | none =>
      rw [hobstacle] at h
      cases h
    | some existing =>
      rw [hobstacle] at h
      exact ⟨existing, obstacle?_eq_some_iff.1 hobstacle, (Except.error.inj h).symm⟩
  · rintro ⟨existing, hblocked, rfl⟩
    rw [obstacle?_eq_some_iff.2 hblocked]

theorem outcome_eq_ok {r next : Rules α} {c : RuleChange α} (h : c.outcome r = .ok next) : next = c.carried r := by
  rw [outcome_eq] at h
  cases hobstacle : c.obstacle? r with
  | none =>
    rw [hobstacle] at h
    exact (Except.ok.inj h).symm
  | some existing =>
    rw [hobstacle] at h
    cases h

theorem exists_outcome_of_insists {c : RuleChange α} (h : c.insists = true) (r : Rules α) :
    ∃ next, c.outcome r = .ok next := by
  cases houtcome : c.outcome r with
  | ok next => exact ⟨next, rfl⟩
  | error e =>
    obtain ⟨existing, hblocked, -⟩ := (outcome_eq_error_iff r c e).1 houtcome
    cases hblocked <;> cases h

/-! ## Changes one after the other -/

/-- The last of the changes that have to do with the place writes the entry there. -/
def LastWritten (changes : List (RuleChange α)) (k : RuleKey) (v : k.Entry α) : Prop :=
  ∃ before c later, changes = before ++ c :: later ∧ c.writes k = some (some v) ∧ ∀ d ∈ later, d.writes k = none

variable {k : RuleKey} {v : k.Entry α}

theorem lastWritten_cons {c : RuleChange α} {changes : List (RuleChange α)} : LastWritten (c :: changes) k v ↔
    LastWritten changes k v ∨ c.writes k = some (some v) ∧ ∀ d ∈ changes, d.writes k = none := by
  constructor
  · rintro ⟨before, c', later, hchanges, hwrites, hlater⟩
    cases before with
    | nil =>
      obtain ⟨rfl, rfl⟩ := List.cons.inj hchanges
      exact .inr ⟨hwrites, hlater⟩
    | cons _ before => exact .inl ⟨before, c', later, (List.cons.inj hchanges).2, hwrites, hlater⟩
  · rintro (⟨before, c', later, rfl, hwrites, hlater⟩ | ⟨hwrites, hlater⟩)
    · exact ⟨c :: before, c', later, rfl, hwrites, hlater⟩
    · exact ⟨[], c, changes, rfl, hwrites, hlater⟩

end RuleChange

namespace Rules

open RuleChange

variable {k : RuleKey} {v : k.Entry α}

theorem find?_outcome_iff {r next : Rules α} {c : RuleChange α} (h : c.outcome r = .ok next) : next.find? k = some v ↔
    c.writes k = some (some v) ∨ c.writes k = none ∧ r.find? k = some v := by
  rw [outcome_eq_ok h, find?_carried]
  cases c.writes k with
  | none => simp
  | some written => simp

/-- An entry is found after some changes when it was the last one put there and not taken out since, and also when it was
there before and none of the changes had to do with its place. -/
theorem find?_after (changes : List (RuleChange α)) (r : Rules α) : (r.after changes).find? k = some v ↔
    LastWritten (r.accepted changes) k v ∨ (∀ d ∈ r.accepted changes, d.writes k = none) ∧ r.find? k = some v := by
  induction changes generalizing r with
  | nil =>
    have hnone : ¬ LastWritten ([] : List (RuleChange α)) k v := by
      rintro ⟨before, c, later, h, -⟩
      exact List.append_ne_nil_of_right_ne_nil before (List.cons_ne_nil c later) h.symm
    simp [after, accepted, hnone]
  | cons c changes ih =>
    rw [after, accepted]
    cases houtcome : c.outcome r with
    | error e => exact ih r
    | ok next =>
      -- the entry was written by a later change, or by this one and by none later, or by none of them
      dsimp only
      rw [ih next, find?_outcome_iff houtcome, lastWritten_cons, List.forall_mem_cons]
      tauto

theorem find?_ofSettings (s : Settings) (k : RuleKey) : (ofSettings s : Rules α).find? k = none := by
  cases k <;> rfl

/-- **What is found in a place is what was last put there by a change that was not refused, unless it was taken out
since.** -/
theorem find?_after_iff (s : Settings) (changes : List (RuleChange α)) : ((ofSettings s).after changes).find? k = some v ↔
    LastWritten ((ofSettings s).accepted changes) k v := by
  rw [find?_after, find?_ofSettings]
  simp

theorem after_append (r : Rules α) (changes more : List (RuleChange α)) :
    r.after (changes ++ more) = (r.after changes).after more := by
  induction changes generalizing r with
  | nil => rfl
  | cons c changes ih =>
    rw [List.cons_append, after, after]
    cases c.outcome r with
    | error e => exact ih r
    | ok next => exact ih next

end Rules

/-! ## Changes of a mapper's rules -/

/-- The request for a change. -/
def RuleChange.request : RuleChange α → Request α
  | addValueHandler owner member handler force => .addValueHandler owner member handler force
  | removeValueHandler owner member => .removeValueHandler owner member
  | addObjectHook owner hook force => .addObjectHook owner hook force
  | addMemberStorage owner member storage force => .addMemberStorage owner member storage force
  | addTypeStorage t storage force => .addTypeStorage t storage force
  | setSettings s => .setSettings s

/-- The change that is asked for, if one is. -/
def Request.change? : Request α → Option (RuleChange α)
  | addValueHandler owner member handler force => some (.addValueHandler owner member handler force)
  | removeValueHandler owner member => some (.removeValueHandler owner member)
  | addObjectHook owner hook force => some (.addObjectHook owner hook force)
  | addMemberStorage owner member storage force => some (.addMemberStorage owner member storage force)
  | addTypeStorage t storage force => some (.addTypeStorage t storage force)
  | setSettings s => some (.setSettings s)
  | _ => none

namespace Rules

theorem serve_after (schema : Schema α) (r : Rules α) (request : Request α) :
    (r.serve schema request).2 = r.after request.change?.toList := by
  have hchanged : ∀ c : RuleChange α, (r.changed ((c.outcome r).map fun next => (Answer.done, next))).2 = r.after [c] := by
    intro c
    rw [after]
    cases c.outcome r <;> rfl
  cases request with
  | addValueHandler owner member handler force => exact hchanged (.addValueHandler owner member handler force)
  | addObjectHook owner hook force => exact hchanged (.addObjectHook owner hook force)
  | addMemberStorage owner member storage force => exact hchanged (.addMemberStorage owner member storage force)
  | addTypeStorage t storage force => exact hchanged (.addTypeStorage t storage force)
  | _ => rfl

theorem serveAll_after (schema : Schema α) (requests : List (Request α)) (r : Rules α) :
    (r.serveAll schema requests).2 = r.after (requests.filterMap Request.change?) := by
  induction requests generalizing r with
  | nil => rfl
  | cons request requests ih =>
    have hsplit : (request :: requests).filterMap Request.change? =
        request.change?.toList ++ requests.filterMap Request.change? := by
      rw [List.filterMap_cons]
      cases request.change? <;> rfl
    rw [hsplit, after_append, ← serve_after schema]
    exact ih _

end Rules

namespace Mapper

theorem serve_change (c : RuleChange α) : ∃ (β : Type) (change : Rules α → Result (β × Rules α)) (answer : β → Answer α),
    serve c.request = (do return answer (← updateRules change)) ∧ ∀ r, (change r).map Prod.snd = c.outcome r := by
  have hchange : ∀ change : Rules α → Result (Rules α), serve c.request = (do changeRules change; return .done) →
      (∀ r, change r = c.outcome r) → ∃ (β : Type) (change : Rules α → Result (β × Rules α)) (answer : β → Answer α),
        serve c.request = (do return answer (← updateRules change)) ∧ ∀ r, (change r).map Prod.snd = c.outcome r := by
    intro change hserve houtcome
    refine ⟨Unit, fun r => (change r).map fun s => ((), s), fun _ => .done, hserve, fun r => ?_⟩
    dsimp only
    rw [houtcome]
    cases c.outcome r <;> rfl
  cases c with
  | addValueHandler owner member handler force =>
    exact hchange (·.addValueHandler owner member handler force) rfl fun _ => rfl
  | removeValueHandler owner member =>
    exact ⟨Bool, fun r => .ok (r.removeValueHandler owner member), .removed, rfl, fun _ => rfl⟩
  | addObjectHook owner hook force => exact hchange (·.addObjectHook owner hook force) rfl fun _ => rfl
  | addMemberStorage owner member storage force =>
    exact hchange (·.addMemberStorage owner member storage force) rfl fun _ => rfl
  | addTypeStorage t storage force => exact hchange (·.addTypeStorage t storage force) rfl fun _ => rfl
  | setSettings s => exact hchange (fun r => .ok { r with settings := s }) rfl fun _ => rfl

/-- A mapper that is asked for a change does with its rules what the rules do alone. -/
theorem perform_change (c : RuleChange α) (j : Journaled (Mapper α)) :
    match c.outcome j.state.rules with
    | .error e => (serve c.request).perform j = (.error e, j)
    | .ok next => (∃ answer, ((serve c.request).perform j).1 = .ok answer) ∧ ((serve c.request).perform j).2.state =
        { j.state with rules := next, cache := { j.state.cache with entries := [] } } := by
  obtain ⟨β, change, answer, hserve, houtcome⟩ := serve_change c
  have hperform := perform_updateRules change j
  rw [hserve, Job.perform_returning, ← houtcome]
  cases hchange : change j.state.rules with
  | error e =>
    rw [hchange] at hperform
    dsimp only [Except.map] at hperform ⊢
    rw [hperform]
  | ok changed =>
    rw [hchange] at hperform
    obtain ⟨hdone, hstate⟩ := hperform
    dsimp only [Except.map] at hstate ⊢
    rw [hdone]
    exact ⟨⟨answer changed.1, rfl⟩, hstate⟩

end Mapper

/-- **The rules are a registry.**
- After any changes what is found in a place is what was last put there by a change that was not refused, unless it was
  taken out since.
- A change is refused exactly when something stands in its way, which is what the failure names; a change that insists
  never is.
- A refused change leaves a mapper, its routines and its counters as they are.  After any other one it has the rules that
  the change makes, no routines, and the counters from before.
- The rules of a mapper are those after the changes among all that was asked of it. -/
theorem RuleChange.registry_laws (s : Settings) :
    (∀ (changes : List (RuleChange α)) k v, ((Rules.ofSettings s).after changes).find? k = some v ↔
      LastWritten ((Rules.ofSettings s).accepted changes) k v) ∧
    (∀ (r : Rules α) (c : RuleChange α),
      (∀ e, c.outcome r = .error e ↔ ∃ existing, c.Blocked r existing ∧ e = .registrationConflict existing) ∧
      (c.insists = true → ∃ next, c.outcome r = .ok next)) ∧
    (∀ (c : RuleChange α) (j : Journaled (Mapper α)),
      match c.outcome j.state.rules with
      | .error e => (Mapper.serve c.request).perform j = (.error e, j)
      | .ok next => (∃ answer, ((Mapper.serve c.request).perform j).1 = .ok answer) ∧
        ((Mapper.serve c.request).perform j).2.state =
          { j.state with rules := next, cache := { j.state.cache with entries := [] } }) ∧
    ∀ (schema : Schema α) (log : List LogRecord) (requests : List (Request α)),
      (Mapper.serveAll requests ⟨Mapper.ofSettings schema s, log⟩).2.state.rules =
        (Rules.ofSettings s).after (requests.filterMap Request.change?) := by
  refine ⟨fun changes k v => Rules.find?_after_iff s changes,
    fun r c => ⟨outcome_eq_error_iff r c, fun h => exists_outcome_of_insists h r⟩, Mapper.perform_change, ?_⟩
  intro schema log requests
  rw [Mapper.rules_serveAll, Rules.serveAll_after]

/-- A second storage type is refused, the same one under other capitals is not, and insisting replaces it. -/
example : ((Rules.ofSettings {} : Rules Unit).after
      [.addMemberStorage "Sale" "state" .object false, .addMemberStorage "Sale" "STATE" .string false,
        .addMemberStorage "Sale" "State" .object false]).memberStorage? "Sale" "sTATE" = some .object ∧
    ((Rules.ofSettings {} : Rules Unit).after
      [.addMemberStorage "Sale" "state" .object false, .addMemberStorage "Sale" "STATE" .string true]).memberStorage?
        "Sale" "state" = some .string := by
  decide

end RowBinding
