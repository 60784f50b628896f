import RowBinding.Proofs.ReaderRelations
/-!
# Readers that agree

Two readers agree on the rows with a property when they do the same on each of them and leave only such rows.  **Readers
put together of readers that agree, agree** (`composes_agreeOn`), so a property that every step keeps carries the
agreement of the steps to the whole run.
-/
namespace RowBinding

variable {α β γ : Type}

theorem Result.inField_eq_ok {target field : String} {r : Result β} {b : β} (h : Result.inField target field r = .ok b) :
    r = .ok b := by
  cases r with
  | error e => cases h
  | ok c => exact h

/-- An operation takes what stands at its source, or the NULL of no type, and delivers something for it. -/
theorem Operation.run_eq (op : Operation) (values : List Value) :
    op.run values = (op.deliver (values[op.source]?.getD .untyped)).map fun w => (w, values.set op.source .untyped) := by
  show ((do
    let w ← op.deliver (values[op.source]?.getD .untyped)
    return (w, values.set op.source .untyped)) : Result (Value × List Value)) = _
  cases op.deliver (values[op.source]?.getD .untyped) <;> rfl

theorem Operation.run_of_getElem? {op : Operation} {values : List Value} {v : Value} (h : values[op.source]? = some v) :
    op.run values = (op.deliver v).map fun w => (w, values.set op.source .untyped) := by
  rw [run_eq, h, Option.getD_some]

/-- An operation for a member goes to the setter of that member. -/
theorem RowRoutine.setter?_of_member {e : EntityDef α} {op : Operation} {i : Nat} {m : MemberDef α}
    {put : α → Value → Result α} (hdestination : op.destination = .member i) (hm : e.members[i]? = some m)
    (hput : m.set = some put) : setter? (e.members.map (·.set)) op = some put := by
  rw [setter?, hdestination]
  dsimp only
  rw [List.getElem?_map, hm, Option.map_some, hput, Option.join_some]

namespace RowReader

/-- The readers do the same on every row with a property, and leave a row with the property behind. -/
def AgreeOn (I : List Value → Prop) (m n : RowReader β) : Prop :=
  ∀ values, I values → m values = n values ∧ ∀ b rest, n values = .ok (b, rest) → I rest

variable {I : List Value → Prop}

theorem bind_eq_ok {m : RowReader β} {k : β → RowReader γ} {values rest : List Value} {c : γ}
    (h : (m >>= k) values = .ok (c, rest)) : ∃ b between, m values = .ok (b, between) ∧ k b between = .ok (c, rest) := by
  have hm : (m >>= k) values = (m values >>= fun x => k x.1 x.2) := rfl
  rw [hm] at h
  obtain ⟨⟨b, between⟩, hb, hc⟩ := Result.bind_eq_ok_iff.1 h
  exact ⟨b, between, hb, hc⟩

theorem agreeOn_pure (b : β) : AgreeOn I (pure b) (pure b) := by
  refine fun values hI => ⟨rfl, fun b' rest h => ?_⟩
  obtain ⟨-, rfl⟩ := Prod.mk.inj (Except.ok.inj h)
  exact hI

theorem agreeOn_lift (r : Result β) : AgreeOn I (liftM r) (liftM r) := by
  refine fun values hI => ⟨rfl, fun b rest h => ?_⟩
  have hlift : (r >>= fun b => (.ok (b, values) : Result (β × List Value))) = .ok (b, rest) := h
  obtain ⟨b', -, hb⟩ := Result.bind_eq_ok_iff.1 hlift
  obtain ⟨-, rfl⟩ : b' = b ∧ values = rest := by simpa using hb
  exact hI

theorem AgreeOn.bind {m n : RowReader β} {k l : β → RowReader γ} (h : AgreeOn I m n) (hkl : ∀ b, AgreeOn I (k b) (l b)) :
    AgreeOn I (m >>= k) (n >>= l) := by
  intro values hI
  obtain ⟨heq, hkeep⟩ := h values hI
  have hm : (m >>= k) values = (m values >>= fun x => k x.1 x.2) := rfl
  have hn : (n >>= l) values = (n values >>= fun x => l x.1 x.2) := rfl
  rw [hm, hn, heq]
  cases hx : n values with
  | error e => exact ⟨rfl, fun c rest h => (by cases h)⟩
  | ok x => exact hkl x.1 x.2 (hkeep x.1 x.2 hx)

theorem composes_agreeOn : Composes (AgreeOn I) := ⟨agreeOn_lift, AgreeOn.bind⟩

/-- Reads a value and does something with it, in the context of a field. -/
def reading (target field : String) (m : RowReader Value) (use : Value → Result β) : RowReader β :=
  fun values => Result.inField target field (do
    let (v, rest) ← m values
    return (← use v, rest))

theorem AgreeOn.reading {m n : RowReader Value} (h : AgreeOn I m n) (target field : String) (use : Value → Result β) :
    AgreeOn I (reading target field m use) (reading target field n use) := by
  intro values hI
  obtain ⟨heq, hkeep⟩ := h values hI
  unfold RowReader.reading
  rw [heq]
  refine ⟨rfl, fun b rest hb => ?_⟩
  obtain ⟨x, hx, hb⟩ := Result.bind_eq_ok_iff.1 (Result.inField_eq_ok hb)
  obtain ⟨c, -, hb⟩ := Result.bind_eq_ok_iff.1 hb
  obtain ⟨-, rfl⟩ : c = b ∧ x.2 = rest := by simpa using Except.ok.inj hb
  exact hkeep x.1 x.2 hx

/-! ## One reader on two rows -/

/-- One failure, or one value with rows that are related. -/
inductive EndsAlike (Q : List Value → List Value → Prop) : Result (β × List Value) → Result (β × List Value) → Prop
  | ok (b : β) {v w : List Value} (h : Q v w) : EndsAlike Q (.ok (b, v)) (.ok (b, w))
  | error (e : Failure) : EndsAlike Q (.error e) (.error e)

/-- On two related rows the reader ends alike. -/
def Carries (P Q : List Value → List Value → Prop) (m : RowReader β) : Prop := ∀ v w, P v w → EndsAlike Q (m v) (m w)

variable {P Q : List Value → List Value → Prop}

theorem carries_eq (m : RowReader β) : Carries Eq Eq m := by
  rintro v _ rfl
  cases m v with
  | error e => exact .error e
  | ok x => exact .ok x.1 rfl

theorem carries_pure (b : β) : Carries P P (pure b) := fun _ _ h => .ok b h

theorem carries_lift (r : Result β) : Carries P P (liftM r) := by
  intro v w h
  cases r with
  | error e => exact .error e
  | ok b => exact .ok b h

theorem Carries.bind {S : List Value → List Value → Prop} {m : RowReader β} {k : β → RowReader γ} (h : Carries P Q m)
    (hk : ∀ b, Carries Q S (k b)) : Carries P S (m >>= k) := by
  intro v w hvw
  have hv : (m >>= k) v = (m v >>= fun x => k x.1 x.2) := rfl
  have hw : (m >>= k) w = (m w >>= fun x => k x.1 x.2) := rfl
  rw [hv, hw]
  have hend := h v w hvw
  generalize m v = ran at hend ⊢
  generalize m w = ran' at hend ⊢
  cases hend with
  | ok b h => exact hk b _ _ h
  | error e => exact .error e

theorem Carries.reading {m : RowReader Value} (h : Carries P Q m) (target field : String) (use : Value → Result β) :
    Carries P Q (reading target field m use) := by
  intro v w hvw
  unfold RowReader.reading
  have hend := h v w hvw
  generalize m v = ran at hend ⊢
  generalize m w = ran' at hend ⊢
  cases hend with
  | error e => exact .error _
  | ok b h =>
    show EndsAlike Q (Result.inField target field (use b >>= fun c => .ok (c, _)))
      (Result.inField target field (use b >>= fun c => .ok (c, _)))
    cases use b with
    | error e => exact .error _
    | ok c => exact .ok c h

theorem Carries.mapM {m : β → RowReader γ} : ∀ {bs : List β}, (∀ b ∈ bs, Carries P P (m b)) → Carries P P (bs.mapM m)
  | [], _ => carries_pure []
  | b :: bs, h => by
    rw [List.mapM_cons]
    refine (h b List.mem_cons_self).bind fun x => ?_
    exact (Carries.mapM fun c hc => h c (List.mem_cons_of_mem _ hc)).bind fun xs => carries_pure (x :: xs)

/-- Of one reader on two rows: the readers are the same, and what is carried stays. -/
theorem composes_carries : Composes fun m n => m = n ∧ Carries P P m where
  lift r := ⟨rfl, carries_lift r⟩
  bind h hkl := by
    obtain ⟨rfl, hm⟩ := h
    exact ⟨congrArg _ (funext fun b => (hkl b).1), hm.bind fun b => (hkl b).2⟩

end RowReader

end RowBinding
