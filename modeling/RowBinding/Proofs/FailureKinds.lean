import RowBinding.Proofs.Memoization
import RowBinding.Proofs.SentTypes
/-!
# Kinds of failures

Handlers, setters, constructors, hooks and conversions fail in their own ways, and so do some branches of the mapper.
**What a caller is told has one of the mapper's own kinds, but for what a hook says** (`Mapper.failure_kinds`):
compiling blames the shape or its binding, a routine that reads rows names a field or the constructor, and one that reads
objects names a member.

A failure has no kind where the computation ended instead of failing (`Failure.abort`).  That is told from where it
happened: some step of a routine ended so.
-/
namespace RowBinding

variable {α β γ : Type}

theorem Result.inField_eq_error_iff {target field : String} {r : Result β} {e : Failure} :
    Result.inField target field r = .error e ↔ ∃ reason, r = .error reason ∧ e = reason.inField target field := by
  cases r with
  | ok b => exact ⟨fun h => (by cases h), fun ⟨_, h, _⟩ => (by cases h)⟩
  | error reason =>
    exact ⟨fun h => ⟨reason, rfl, (Except.error.inj h).symm⟩, fun ⟨_, h, he⟩ => by cases h; exact congrArg _ he.symm⟩

/-- In the context of a field a failure is one of conversion; the end of the computation stays what it is. -/
theorem Failure.inField_cases (target field : String) (reason : Failure) :
    reason.inField target field = .conversion target field reason ∨
      reason = .abort ∧ reason.inField target field = .abort := by
  cases reason with
  | abort => exact .inr ⟨rfl, rfl⟩
  | _ => exact .inl rfl

/-! ## Reading rows -/

namespace RowReader

/-- Whatever row the reader fails on, its failure has a property. -/
def FailsWith (P : Failure → Prop) (m : RowReader β) : Prop := ∀ values e, m values = .error e → P e

variable {P : Failure → Prop}

theorem failsWith_pure (b : β) : FailsWith P (pure b) := fun _ _ h => by cases h

theorem failsWith_lift {r : Result β} (h : ∀ e, r = .error e → P e) : FailsWith P (liftM r) := by
  intro values e he
  cases r with
  | ok b => cases he
  | error e' => exact h e (congrArg _ (Except.error.inj he))

theorem FailsWith.bind {m : RowReader β} {k : β → RowReader γ} (h : FailsWith P m) (hk : ∀ b, FailsWith P (k b)) :
    FailsWith P (m >>= k) := by
  intro values e he
  have hm : (m >>= k) values = (m values >>= fun x => k x.1 x.2) := rfl
  rw [hm] at he
  rcases Result.bind_eq_error_iff.1 he with he | ⟨x, -, he⟩
  · exact h values e he
  · exact hk x.1 x.2 e he

theorem FailsWith.mapM {m : β → RowReader γ} : ∀ {bs : List β}, (∀ b ∈ bs, FailsWith P (m b)) → FailsWith P (bs.mapM m)
  | [], _ => failsWith_pure []
  | b :: bs, h => by
    rw [List.mapM_cons]
    refine (h b List.mem_cons_self).bind fun x => ?_
    exact (FailsWith.mapM fun c hc => h c (List.mem_cons_of_mem _ hc)).bind fun xs => failsWith_pure (x :: xs)

theorem FailsWith.foldlM {m : γ → β → RowReader γ} : ∀ {bs : List β}, (∀ x, ∀ b ∈ bs, FailsWith P (m x b)) →
    ∀ x, FailsWith P (bs.foldlM m x)
  | [], _, x => failsWith_pure x
  | b :: bs, h, x => by
    rw [List.foldlM_cons]
    exact (h x b List.mem_cons_self).bind (FailsWith.foldlM fun y c hc => h y c (List.mem_cons_of_mem _ hc))

end RowReader

namespace RowRoutine

variable {schema : Schema α} {rules : Rules α} {p : Fingerprint} {r : RowRoutine α}

/-- A step of a run fails for a reason, and is known by a label: the coercion or the handler refuses the value of a
field, the scalar or a setter refuses what is delivered, or the constructor fails. -/
inductive StepFails (r : RowRoutine α) : String → Failure → Prop
  | deliver {op : Operation} {v : Value} {reason : Failure} (hop : op ∈ r.plan.operations)
    (h : op.deliver v = .error reason) : StepFails r op.name reason
  | result {op : Operation} {ofValue : Value → Result α} {v : Value} {reason : Failure} (hop : op ∈ r.plan.operations)
    (hbody : r.body = .scalar ofValue) (h : ofValue v = .error reason) : StepFails r op.name reason
  | set {op : Operation} {name : String} {build : Args → Result α} {setters : List (Option (α → Value → Result α))}
    {set : α → Value → Result α} {object : α} {v : Value} {reason : Failure} (hop : op ∈ r.plan.operations)
    (hbody : r.body = .entity name build setters) (hset : setter? setters op = some set)
    (h : set object v = .error reason) : StepFails r op.name reason
  | build {name : String} {build : Args → Result α} {setters : List (Option (α → Value → Result α))} {args : Args}
    {reason : Failure} (hbody : r.body = .entity name build setters) (h : build args = .error reason) :
    StepFails r (name ++ "(..)") reason

/-- The failure is that of a step, in the context of its label. -/
def FailsAtStep (r : RowRoutine α) (e : Failure) : Prop :=
  ∃ label reason, r.StepFails label reason ∧ e = reason.inField r.fingerprint.target label

theorem atField_failsWith {op : Operation} {use : Value → Result β} (hop : op ∈ r.plan.operations)
    (huse : ∀ v reason, use v = .error reason → r.StepFails op.name reason) :
    RowReader.FailsWith r.FailsAtStep (atField r.fingerprint.target op use) := by
  intro values e he
  obtain ⟨reason, hreason, rfl⟩ := Result.inField_eq_error_iff.1 he
  refine ⟨op.name, reason, ?_, rfl⟩
  rcases Result.bind_eq_error_iff.1 hreason with hrun | ⟨x, -, hrest⟩
  · rw [Operation.run_eq] at hrun
    exact .deliver hop (Result.map_eq_error_iff.1 hrun)
  · rcases Result.bind_eq_error_iff.1 hrest with hx | ⟨_, -, hdone⟩
    · exact huse x.1 reason hx
    · cases hdone

theorem assign_failsWith {op : Operation} {name : String} {build : Args → Result α}
    {setters : List (Option (α → Value → Result α))} (hbody : r.body = .entity name build setters)
    (hop : op ∈ r.plan.operations) (object : α) :
    RowReader.FailsWith r.FailsAtStep (assign r.fingerprint.target setters object op) := by
  unfold assign
  cases hset : setter? setters op with
  | none => exact RowReader.failsWith_pure object
  | some set => exact atField_failsWith hop fun v reason h => .set hop hbody hset h

/-- **A run fails at one of its steps**, if there is one. -/
theorem produce_failsWith (hops : r.plan.operations ≠ []) :
    RowReader.FailsWith r.FailsAtStep (produce r.plan r.body) := by
  unfold produce
  cases hbody : r.body with
  | scalar ofValue =>
    dsimp only
    cases hplan : r.plan.operations with
    | nil => exact absurd hplan hops
    | cons op ops =>
      have hop : op ∈ r.plan.operations := hplan ▸ List.mem_cons_self
      exact atField_failsWith hop fun v reason h => .result hop hbody h
  | entity name build setters =>
    -- the arguments are read, the object is built, and what is left is assigned
    refine RowReader.FailsWith.bind ?_ fun arguments => RowReader.FailsWith.bind ?_ fun object => ?_
    · refine RowReader.FailsWith.mapM fun op hop => ?_
      exact atField_failsWith (List.mem_of_mem_filter hop) fun v reason h => (by cases h)
    · refine RowReader.failsWith_lift fun e he => ?_
      obtain ⟨reason, hreason, rfl⟩ := Result.inField_eq_error_iff.1 he
      exact ⟨_, reason, .build hbody hreason, rfl⟩
    · exact RowReader.FailsWith.foldlM
        (fun built op hop => assign_failsWith hbody (List.mem_of_mem_filter hop) built) object

/-! ### What a failure names -/

/-- The label is that of a field that is bound, or the selected constructor stands for all of them. -/
def Names (r : RowRoutine α) (d : TypeDef α) (label : String) : Prop :=
  (∃ op ∈ r.plan.operations, ∃ f, r.fingerprint.fields[op.source]? = some f ∧ label = f.label) ∨
    ∃ e c, d = .entity e ∧ r.plan.selected.bind (e.constructors[·]?) = some c ∧ label = c.name ++ "(..)"

theorem exists_field_of_ofRow {d : TypeDef α} {plan : Plan} (h : Plan.ofRow rules d p = .ok plan) {op : Operation}
    (hop : op ∈ plan.operations) : ∃ f, p.fields[op.source]? = some f ∧ op.name = f.label := by
  cases d with
  | scalar s =>
    obtain ⟨f, hf, rfl⟩ := Plan.ofRow_scalar h
    rw [List.mem_singleton.1 hop]
    exact ⟨f, by rw [hf]; rfl, rfl⟩
  | entity e =>
    obtain ⟨i, c, args, -, -, -, -, -, -, hops, hleft, hright⟩ := Plan.ofRow_entity h
    rw [hops] at hop
    rcases List.mem_append.1 hop with hop | hop
    · obtain ⟨a, -, ha⟩ := exists_of_mem_forall₂ hleft.flip hop
      obtain ⟨f, -, hf, -, rfl⟩ := Plan.argumentOperation?_eq_some ha
      exact ⟨f, hf, rfl⟩
    · obtain ⟨b, -, hb⟩ := exists_of_mem_forall₂ hright.flip hop
      obtain ⟨f, -, hf, -, rfl⟩ := Plan.assignmentOperation?_eq_some hb
      exact ⟨f, hf, rfl⟩

theorem bodyOf_eq_entity {d : TypeDef α} {plan : Plan} {name : String} {build : Args → Result α}
    {setters : List (Option (α → Value → Result α))} (h : bodyOf d plan = .ok (.entity name build setters)) :
    ∃ e c, d = .entity e ∧ plan.selected.bind (e.constructors[·]?) = some c ∧ name = c.name := by
  unfold bodyOf at h
  cases d with
  | scalar s => cases h
  | entity e =>
    dsimp only at h
    split at h
    · rename_i c hc
      cases h
      exact ⟨e, c, rfl, hc, rfl⟩
    · cases h

theorem names_of_stepFails (hr : compile schema rules p = .ok r) {label : String} {reason : Failure}
    (h : r.StepFails label reason) : r.Names (schema p.target) label := by
  obtain ⟨hplan, hbody⟩ := compile_eq_ok hr
  have hfield : ∀ op ∈ r.plan.operations, r.Names (schema p.target) op.name := by
    intro op hop
    obtain ⟨f, hf, hname⟩ := exists_field_of_ofRow hplan hop
    rw [← compile_fingerprint hr] at hf
    exact .inl ⟨op, hop, f, hf, hname⟩
  cases h with
  | deliver hop _ => exact hfield _ hop
  | result hop _ _ => exact hfield _ hop
  | set hop _ _ _ => exact hfield _ hop
  | build hentity _ =>
    rw [hentity] at hbody
    obtain ⟨e, c, hd, hc, rfl⟩ := bodyOf_eq_entity hbody
    exact .inr ⟨e, c, hd, hc, rfl⟩

/-- The hook fails on the object that the row builds. -/
def HookFails (r : RowRoutine α) (row : Row) (e : Failure) : Prop :=
  ∃ hook object rest, r.hook = some hook ∧ produce r.plan r.body row.values = .ok (object, rest) ∧
    hook object = .error e

/-- How a compiled routine fails on a row of its size. -/
inductive CallFails (r : RowRoutine α) (d : TypeDef α) (row : Row) : Failure → Prop
  /-- A step fails; its field is named, or the constructor. -/
  | conversion {label : String} {reason : Failure} (h : r.StepFails label reason) (hlabel : r.Names d label) :
    CallFails r d row (.conversion r.fingerprint.target label reason)
  | ended {label : String} (h : r.StepFails label .abort) : CallFails r d row .abort
  /-- The hook fails, in its own words. -/
  | hook {e : Failure} (h : r.HookFails row e) : CallFails r d row e

theorem CallFails.cases {d : TypeDef α} {row : Row} {e : Failure} (h : r.CallFails d row e) :
    e.isMapping = true ∨ (e = .abort ∧ ∃ label, r.StepFails label .abort) ∨ r.HookFails row e := by
  cases h with
  | conversion => exact .inl rfl
  | ended h => exact .inr (.inl ⟨rfl, _, h⟩)
  | hook h => exact .inr (.inr h)

/-- **The call of a compiled routine.**  A row of another size is refused as such, and no other row is; the hook has the
last word on an object that is built; everything else is a failure of conversion. -/
theorem call_fails (hr : compile schema rules p = .ok r) (row : Row) :
    (row.values.length ≠ p.fields.length →
      r.call row = .error (p.shapeMismatch (.rowSize row.values.length p.fields.length))) ∧
    (row.values.length = p.fields.length →
      (∀ object rest, produce r.plan r.body row.values = .ok (object, rest) → r.call row = r.finish object) ∧
      ∀ e, r.call row = .error e → r.CallFails (schema p.target) row e) := by
  have hp : r.fingerprint = p := compile_fingerprint hr
  rw [call_eq, hp]
  refine ⟨fun hlen => if_neg hlen, fun hlen => ⟨fun object rest h => ?_, fun e he => ?_⟩⟩
  · rw [if_pos hlen, h]
    rfl
  · rw [if_pos hlen] at he
    rcases Result.bind_eq_error_iff.1 he with hproduce | ⟨⟨object, rest⟩, hbuilt, hfinish⟩
    · have hops := (Plan.wellFormed_ofRow (compile_eq_ok hr).1).nonempty
      obtain ⟨label, reason, hstep, rfl⟩ := produce_failsWith hops _ e hproduce
      rcases reason.inField_cases r.fingerprint.target label with hconversion | ⟨rfl, habort⟩
      · rw [hconversion]
        exact .conversion hstep (names_of_stepFails hr hstep)
      · rw [habort]
        exact .ended hstep
    · unfold finish at hfinish
      cases hhook : r.hook with
      | none =>
        rw [hhook] at hfinish
        cases hfinish
      | some hook =>
        rw [hhook] at hfinish
        exact .hook ⟨hook, object, rest, hhook, hbuilt, hfinish⟩

end RowRoutine

/-! ## Reading objects -/

namespace ParameterRoutine

variable {schema : Schema α} {rules : Rules α} {p : Fingerprint} {r : ParameterRoutine α}

/-- How a compiled parameter routine fails: at a member of the type, whose store name is told. -/
inductive CallFails (r : ParameterRoutine α) (d : TypeDef α) : Failure → Prop
  | conversion {e : EntityDef α} {m : MemberDef α} (reason : Failure) (hd : d = .entity e) (hm : m ∈ e.members) :
    CallFails r d (.conversion r.fingerprint.target m.fieldName reason)
  /-- A handler or a coercion ended the computation. -/
  | ended {op : Operation} {v : Value} (hop : op ∈ r.plan.operations) (h : adapt op v = .error .abort) :
    CallFails r d .abort

/-- **The call of a compiled parameter routine fails at a member.** -/
theorem call_fails (hr : compile schema rules p = .ok r) {object : α} {failure : Failure}
    (h : r.call object = .error failure) : r.CallFails (schema p.target) failure := by
  obtain ⟨e, hd, -, -, hops⟩ := compile_sending hr
  rw [call_eq_mapM hr] at h
  obtain ⟨before, op, after, hsplit, hfail, -⟩ := Result.mapM_eq_error h
  have hop : op ∈ r.plan.operations := hsplit ▸ List.mem_append_right _ List.mem_cons_self
  obtain ⟨m, members, fieldType?, hm, hsending⟩ := hops op hop
  have hname : op.name = m.fieldName := by rw [hsending]; rfl
  rcases Result.bind_eq_error_iff.1 hfail with hfail | ⟨_, -, hdone⟩
  · obtain ⟨reason, hreason, rfl⟩ := Result.inField_eq_error_iff.1 hfail
    rcases reason.inField_cases r.fingerprint.target op.name with hconversion | ⟨rfl, habort⟩
    · rw [hconversion, hname]
      exact .conversion reason hd (List.mem_of_getElem? hm)
    · rw [habort]
      exact .ended hop hreason
  · cases hdone

theorem CallFails.cases {d : TypeDef α} {e : Failure} (h : r.CallFails d e) : e.isMapping = true ∨
    e = .abort ∧ ∃ op ∈ r.plan.operations, ∃ v, adapt op v = .error .abort := by
  cases h with
  | conversion => exact .inl rfl
  | ended hop h => exact .inr ⟨rfl, _, hop, _, h⟩

end ParameterRoutine

/-! ## A mapper -/

namespace Mapper

variable {schema : Schema α} {rules : Rules α} {j : Journaled (Mapper α)} {e : Failure}

/-- **Reading fails with a failure of the mapper**, or a step of a routine ended the computation, or the hook failed. -/
theorem read_fails (hj : Under schema rules j.state) {target : TypeName} {row : Row}
    (h : ((read target row).perform j).1 = .error e) : e.isMapping = true ∨
      ∃ p r, RowRoutine.compile schema rules p = .ok r ∧ ((e = .abort ∧ ∃ label, r.StepFails label .abort) ∨
        r.hook = rules.objectHook? target ∧ r.HookFails row e) := by
  have hobtain : ((obtain (.row target row.fields)).perform j).1 =
      ((compileRow target row.fields).perform j).1.map (Published.map .row) := by
    rw [obtain, Job.perform_returning]
  rw [read, Job.perform_bind] at h
  generalize (compileRow target row.fields).perform j = ran at h hobtain
  obtain ⟨result, i⟩ := ran
  cases result with
  | error f =>
    obtain rfl := Except.error.inj h
    exact .inl (blames_of_obtain hj hobtain).isMapping
  | ok s =>
    obtain ⟨p, r, hp, hr, hcompile⟩ := compiled_of_obtain hj hobtain
    cases hr
    -- the routine may be that of an equal key, which has the same target
    obtain ⟨htarget, -, -, -⟩ := Fingerprint.same_iff.1 hp
    have hhooked : s.routine.hook = rules.objectHook? target :=
      (RowRoutine.compile_hook hcompile).trans (congrArg rules.objectHook? htarget)
    have hcall : s.routine.call row = .error e := by
      dsimp only at h
      rwa [Job.perform_ofResult] at h
    obtain ⟨hsize, hrun⟩ := RowRoutine.call_fails hcompile row
    by_cases hlen : row.values.length = p.fields.length
    · rcases ((hrun hlen).2 e hcall).cases with hmapping | hended | hhook
      · exact .inl hmapping
      · exact .inr ⟨p, s.routine, hcompile, .inl hended⟩
      · exact .inr ⟨p, s.routine, hcompile, .inr ⟨hhooked, hhook⟩⟩
    · rw [hsize hlen] at hcall
      obtain rfl := Except.error.inj hcall
      exact .inl rfl

/-- **Binding fails with a failure of the mapper**, or a step of a routine ended the computation. -/
theorem bindToFields_fails (hj : Under schema rules j.state) {command : Command} {target : TypeName} {object : α}
    {fields : List Field} (h : ((bindToFields command target object fields).perform j).1 = .error e) :
    e.isMapping = true ∨ e = .abort ∧ ∃ p r, ParameterRoutine.compile schema rules p = .ok r ∧
      ∃ op ∈ r.plan.operations, ∃ v, ParameterRoutine.adapt op v = .error .abort := by
  rw [(perform_bindToFields command target object fields hj).2, Rules.bindToFields] at h
  rcases Result.bind_eq_error_iff.1 h with h | ⟨r, hr, h⟩
  · exact .inl (ParameterRoutine.blames_of_compile h).isMapping
  · rcases Result.bind_eq_error_iff.1 h with h | ⟨_, -, h⟩
    · rcases (ParameterRoutine.call_fails hr h).cases with hmapping | ⟨habort, hstep⟩
      · exact .inl hmapping
      · exact .inr ⟨habort, _, r, hr, hstep⟩
    · cases h

/-- **The kinds of failures.**  For a mapper after any turns:
- a request for a routine that fails blames the shape or its binding, and one that succeeds gives a routine that is
  compiled for the key, or for one that shares it;
- reading fails with a failure of the mapper or as the hook of the type does, and binding with a failure of the mapper.
For any rules:
- a compilation that fails blames the shape or its binding;
- the call of a compiled row routine refuses exactly the rows of another size as such; the hook has the last word on an
  object that is built; else a failure is one of conversion that names a bound field of the shape or the constructor;
- the call of a compiled parameter routine fails with a failure of conversion that names a member as it is stored.
`Failure.abort`, which is no failure but the end of the computation, comes only of a step that ends so. -/
theorem failure_kinds (schema : Schema α) (settings : Settings) (log : List LogRecord) (turns : List (Turn α)) :
    let used := (serveTurns turns ⟨ofSettings schema settings, log⟩).2
    let rules := used.state.rules
    (∀ w : Wanted,
      (∀ e, ((obtain w).perform used).1 = .error e → e.Blames w.key) ∧
      ∀ s, ((obtain w).perform used).1 = .ok s →
        ∃ p r, p.same w.key = true ∧ s.routine = w.kind.store r ∧ w.compile schema rules p = .ok r) ∧
    (∀ target row e, ((read target row).perform used).1 = .error e → e.isMapping = true ∨
      ∃ p r, RowRoutine.compile schema rules p = .ok r ∧ ((e = .abort ∧ ∃ label, r.StepFails label .abort) ∨
        r.hook = rules.objectHook? target ∧ r.HookFails row e)) ∧
    (∀ command target object fields e, ((bindToFields command target object fields).perform used).1 = .error e →
      e.isMapping = true ∨ e = .abort ∧ ∃ p r, ParameterRoutine.compile schema rules p = .ok r ∧
        ∃ op ∈ r.plan.operations, ∃ v, ParameterRoutine.adapt op v = .error .abort) ∧
    (∀ (rules : Rules α) p e, RowRoutine.compile schema rules p = .error e ∨
      ParameterRoutine.compile schema rules p = .error e → e.Blames p) ∧
    (∀ (rules : Rules α) p r, RowRoutine.compile schema rules p = .ok r →
      r.fingerprint = p ∧ r.hook = rules.objectHook? p.target ∧ ∀ row : Row,
        (row.values.length ≠ p.fields.length →
          r.call row = .error (p.shapeMismatch (.rowSize row.values.length p.fields.length))) ∧
        (row.values.length = p.fields.length →
          (∀ object rest, RowRoutine.produce r.plan r.body row.values = .ok (object, rest) →
            r.call row = r.finish object) ∧
          ∀ e, r.call row = .error e → r.CallFails (schema p.target) row e)) ∧
    ∀ (rules : Rules α) p r, ParameterRoutine.compile schema rules p = .ok r → ∀ object e, r.call object = .error e →
      r.CallFails (schema p.target) e := by
  intro used rules
  have hused : Under schema rules used.state := (keeping_ofTurns schema settings log turns).under
  refine ⟨fun w => ⟨fun e => blames_of_obtain hused, fun s => compiled_of_obtain hused⟩,
    fun target row e => read_fails hused, fun command target object fields e => bindToFields_fails hused,
    fun rules p e h => h.elim RowRoutine.blames_of_compile ParameterRoutine.blames_of_compile,
    fun rules p r hr => ⟨RowRoutine.compile_fingerprint hr, RowRoutine.compile_hook hr, RowRoutine.call_fails hr⟩,
    fun rules p r hr object e => ParameterRoutine.call_fails hr⟩

end Mapper

end RowBinding
