import Mathlib.Data.List.Forall2
import Mathlib.Data.List.Nodup
import RowBinding.Failure
/-!
# Related lists

Lists are related when their elements are, one by one.  **A list that is mapped whole is related to what it is mapped
to**, by what the function gives for each element.
-/
namespace RowBinding

variable {β γ δ ε : Type}

/-! ## Results -/

theorem Result.bind_eq_ok_iff {r : Except ε β} {f : β → Except ε γ} {c : γ} :
    (r >>= f) = .ok c ↔ ∃ b, r = .ok b ∧ f b = .ok c := by
  cases r with
  | error e => exact ⟨fun h => (by cases h), fun ⟨b, hb, _⟩ => (by cases hb)⟩
  | ok b => exact ⟨fun h => ⟨b, rfl, h⟩, fun ⟨b', hb, h⟩ => by cases hb; exact h⟩

theorem Result.bind_eq_error_iff {r : Except ε β} {f : β → Except ε γ} {e : ε} :
    (r >>= f) = .error e ↔ r = .error e ∨ ∃ b, r = .ok b ∧ f b = .error e := by
  cases r with
  | error e' =>
    exact ⟨fun h => .inl (congrArg _ (Except.error.inj h)),
      fun h => h.elim (fun h => congrArg _ (Except.error.inj h)) fun ⟨_, hb, _⟩ => (by cases hb)⟩
  | ok b =>
    exact ⟨fun h => .inr ⟨b, rfl, h⟩, fun h => h.elim (fun h => (by cases h)) fun ⟨_, hb, h⟩ => (by cases hb; exact h)⟩

theorem Result.map_eq_ok_iff {r : Except ε β} {f : β → γ} {c : γ} : r.map f = .ok c ↔ ∃ b, r = .ok b ∧ f b = c := by
  cases r with
  | error e => exact ⟨fun h => (by cases h), fun ⟨b, hb, _⟩ => (by cases hb)⟩
  | ok b => exact ⟨fun h => ⟨b, rfl, Except.ok.inj h⟩, fun ⟨b', hb, h⟩ => by cases hb; exact congrArg Except.ok h⟩

theorem Result.map_eq_error_iff {r : Except ε β} {f : β → γ} {e : ε} : r.map f = .error e ↔ r = .error e := by
  cases r with
  | error e' => exact ⟨fun h => congrArg Except.error (Except.error.inj h), fun h => congrArg _ (Except.error.inj h)⟩
  | ok b => exact ⟨fun h => (by cases h), fun h => (by cases h)⟩

/-! ## Elements and positions -/

theorem exists_of_mem_forall₂ {R : β → γ → Prop} {l : List β} {r : List γ} (h : List.Forall₂ R l r) {b : β}
    (hb : b ∈ l) : ∃ c ∈ r, R b c := by
  induction h with
  | nil => cases hb
  | @cons _ c _ _ hR _ ih =>
    rcases List.mem_cons.1 hb with rfl | hb
    · exact ⟨c, List.mem_cons_self, hR⟩
    · obtain ⟨c', hc, hR'⟩ := ih hb
      exact ⟨c', List.mem_cons_of_mem _ hc, hR'⟩

theorem forall₂_comp {R : β → γ → Prop} {S : γ → δ → Prop} {T : β → δ → Prop}
    (hT : ∀ b c d, R b c → S c d → T b d) {l : List β} {r : List γ} {s : List δ} (hR : List.Forall₂ R l r)
    (hS : List.Forall₂ S r s) : List.Forall₂ T l s := by
  induction hR generalizing s with
  | nil =>
    cases hS
    exact .nil
  | cons hbc _ ih =>
    cases hS with
    | cons hcd hS => exact .cons (hT _ _ _ hbc hcd) (ih hS)

theorem forall₂_getElem? {R : β → γ → Prop} {l : List β} {r : List γ} (h : List.Forall₂ R l r) {k : Nat} {b : β} {c : γ}
    (hb : l[k]? = some b) (hc : r[k]? = some c) : R b c := by
  obtain ⟨hk, rfl⟩ := List.getElem?_eq_some_iff.1 hb
  obtain ⟨hk', rfl⟩ := List.getElem?_eq_some_iff.1 hc
  exact h.get hk hk'

theorem forall₂_getElem?_left {R : β → γ → Prop} {l : List β} {r : List γ} (h : List.Forall₂ R l r) {k : Nat} {b : β}
    (hb : l[k]? = some b) : ∃ c, r[k]? = some c ∧ R b c := by
  obtain ⟨hk, rfl⟩ := List.getElem?_eq_some_iff.1 hb
  have hk' : k < r.length := h.length_eq ▸ hk
  exact ⟨r[k], List.getElem?_eq_getElem hk', h.get hk hk'⟩

theorem forall₂_set {R : β → γ → Prop} {l : List β} {r : List γ} (h : List.Forall₂ R l r) {c : γ}
    (hc : ∀ b ∈ l, R b c) (k : Nat) : List.Forall₂ R l (r.set k c) := by
  induction h generalizing k with
  | nil => exact .nil
  | cons hbc hrest ih =>
    cases k with
    | zero => exact .cons (hc _ List.mem_cons_self) hrest
    | succ k => exact .cons hbc (ih (fun b hb => hc b (List.mem_cons_of_mem _ hb)) k)

theorem forall₂_of_getElem? {R : β → γ → Prop} {l : List β} {r : List γ} (hlen : l.length = r.length)
    (h : ∀ (k : Nat) (b : β) (c : γ), l[k]? = some b → r[k]? = some c → R b c) : List.Forall₂ R l r :=
  List.forall₂_iff_get.2 ⟨hlen, fun k hk hk' => h k _ _ (List.getElem?_eq_getElem hk) (List.getElem?_eq_getElem hk')⟩

theorem forall₂_zipIdx_iff {R : β → Nat → γ → Prop} {l : List β} {r : List γ} {k : Nat} :
    List.Forall₂ (fun bi c => R bi.1 bi.2 c) (l.zipIdx k) r ↔
      l.length = r.length ∧ ∀ i b c, l[i]? = some b → r[i]? = some c → R b (k + i) c := by
  constructor
  · intro h
    refine ⟨by simpa using h.length_eq, fun i b c hb hc => ?_⟩
    have hbi : (l.zipIdx k)[i]? = some (b, k + i) := by rw [List.getElem?_zipIdx, hb, Option.map_some]
    exact forall₂_getElem? h hbi hc
  · rintro ⟨hlen, hall⟩
    refine forall₂_of_getElem? (by simpa using hlen) fun i bi c hbi hc => ?_
    rw [List.getElem?_zipIdx] at hbi
    obtain ⟨b, hb, rfl⟩ := Option.map_eq_some_iff.1 hbi
    exact hall i b c hb hc

/-- The one element with a property is found, if what it is told apart by does not repeat. -/
theorem findIdx?_of_nodup {key : β → γ} {l : List β} (h : (l.map key).Nodup) {q : β → Bool} {i : Nat} {b : β}
    (hb : l[i]? = some b) (hq : q b = true) (hkey : ∀ c ∈ l, q c = true → key c = key b) : l.findIdx? q = some i := by
  have hsome : (l.findIdx? q).isSome = true := by
    rw [List.findIdx?_isSome, List.any_eq_true]
    exact ⟨b, List.mem_of_getElem? hb, hq⟩
  obtain ⟨j, hj⟩ := Option.isSome_iff_exists.1 hsome
  obtain ⟨hlt, hqj, -⟩ := List.findIdx?_eq_some_iff_getElem.1 hj
  have hc : l[j]? = some l[j] := List.getElem?_eq_getElem hlt
  have hsame : (l.map key)[j]? = (l.map key)[i]? := by
    rw [List.getElem?_map, List.getElem?_map, hc, hb, Option.map_some, Option.map_some,
      hkey _ (List.getElem_mem hlt) hqj]
  rw [hj, (List.getElem?_inj (by rwa [List.length_map]) h).1 hsame]

/-! ## Maps -/

theorem map_eq_of_forall₂ {R : β → γ → Prop} {f : β → δ} {g : γ → δ} {l : List β} {r : List γ}
    (h : List.Forall₂ R l r) (hR : ∀ b c, R b c → f b = g c) : l.map f = r.map g := by
  induction h with
  | nil => rfl
  | cons hbc _ ih => rw [List.map_cons, List.map_cons, ih, hR _ _ hbc]

theorem forall₂_filterMap {R : β → γ → Prop} {f : β → Option γ} : ∀ {l : List β},
    (∀ b ∈ l, ∃ c, f b = some c ∧ R b c) → List.Forall₂ R l (l.filterMap f)
  | [], _ => .nil
  | b :: l, h => by
    obtain ⟨c, hc, hR⟩ := h b List.mem_cons_self
    rw [List.filterMap_cons_some hc]
    exact .cons hR (forall₂_filterMap fun b' hb' => h b' (List.mem_cons_of_mem _ hb'))

theorem filterMap_eq_of_forall₂ {f : β → Option γ} {l : List β} {r : List γ}
    (h : List.Forall₂ (fun b c => f b = some c) l r) : l.filterMap f = r := by
  induction h with
  | nil => rfl
  | cons hbc _ ih => rw [List.filterMap_cons_some hbc, ih]

theorem mapM_eq_some_iff {f : β → Option γ} : ∀ {l : List β} {r : List γ},
    l.mapM f = some r ↔ List.Forall₂ (fun b c => f b = some c) l r
  | [], r => by simp [List.forall₂_nil_left_iff, eq_comm]
  | b :: l, r => by
    rw [List.mapM_cons, List.forall₂_cons_left_iff]
    constructor
    · intro h
      obtain ⟨c, hc, h⟩ := Option.bind_eq_some_iff.1 h
      obtain ⟨cs, hcs, h⟩ := Option.bind_eq_some_iff.1 h
      exact ⟨c, cs, hc, mapM_eq_some_iff.1 hcs, (Option.some.inj h).symm⟩
    · rintro ⟨c, cs, hc, hcs, rfl⟩
      rw [hc, mapM_eq_some_iff.2 hcs]
      rfl

theorem Result.mapM_eq_ok {f : β → Except ε γ} : ∀ {l : List β} {r : List γ}, l.mapM f = .ok r →
    List.Forall₂ (fun b c => f b = .ok c) l r
  | [], r, h => by
    obtain rfl := Except.ok.inj h
    exact .nil
  | b :: l, r, h => by
    rw [List.mapM_cons] at h
    obtain ⟨c, hc, h⟩ := Result.bind_eq_ok_iff.1 h
    obtain ⟨cs, hcs, h⟩ := Result.bind_eq_ok_iff.1 h
    rw [← Except.ok.inj h]
    exact .cons hc (Result.mapM_eq_ok hcs)

theorem Result.mapM_eq_ok_iff {f : β → Except ε γ} {l : List β} {r : List γ} : l.mapM f = .ok r ↔
    List.Forall₂ (fun b c => f b = .ok c) l r := by
  refine ⟨Result.mapM_eq_ok, fun h => ?_⟩
  induction h with
  | nil => rfl
  | cons hbc _ ih =>
    rw [List.mapM_cons, hbc, ih]
    rfl

/-- A map fails with the first failure. -/
theorem Result.mapM_eq_error {f : β → Except ε γ} {e : ε} : ∀ {l : List β}, l.mapM f = .error e →
    ∃ before b after, l = before ++ b :: after ∧ f b = .error e ∧ ∀ c ∈ before, ∃ d, f c = .ok d
  | [], h => by cases h
  | b :: l, h => by
    rw [List.mapM_cons] at h
    cases hb : f b with
    | error e' =>
      rw [hb] at h
      cases h
      exact ⟨[], b, l, rfl, hb, fun c hc => by cases hc⟩
    | ok d =>
      rw [hb] at h
      cases hl : l.mapM f with
      | ok r =>
        rw [hl] at h
        cases h
      | error e' =>
        rw [hl] at h
        cases h
        obtain ⟨before, c, after, rfl, hc, hbefore⟩ := Result.mapM_eq_error hl
        exact ⟨b :: before, c, after, rfl, hc, List.forall_mem_cons.2 ⟨⟨d, hb⟩, hbefore⟩⟩

theorem Result.exists_mapM_iff {f : β → Except ε γ} {l : List β} :
    (∃ r, l.mapM f = .ok r) ↔ ∀ b ∈ l, ∃ c, f b = .ok c := by
  constructor
  · rintro ⟨r, h⟩ b hb
    obtain ⟨c, -, hc⟩ := exists_of_mem_forall₂ (Result.mapM_eq_ok h) hb
    exact ⟨c, hc⟩
  · intro hall
    cases h : l.mapM f with
    | ok r => exact ⟨r, rfl⟩
    | error e =>
      obtain ⟨before, b, after, rfl, hb, -⟩ := Result.mapM_eq_error h
      obtain ⟨c, hc⟩ := hall b (List.mem_append_right _ List.mem_cons_self)
      cases hb.symm.trans hc

theorem Result.mapM_of_forall₂ {R : β → δ → Prop} {f : γ → Except ε δ} {l : List β} {r : List γ}
    (h : List.Forall₂ (fun b c => ∃ d, f c = .ok d ∧ R b d) l r) : ∃ s, r.mapM f = .ok s ∧ List.Forall₂ R l s := by
  induction h with
  | nil => exact ⟨[], rfl, .nil⟩
  | cons hbc _ ih =>
    obtain ⟨d, hd, hR⟩ := hbc
    obtain ⟨s, hs, hRs⟩ := ih
    refine ⟨d :: s, ?_, .cons hR hRs⟩
    rw [List.mapM_cons, hd, hs]
    rfl

end RowBinding
