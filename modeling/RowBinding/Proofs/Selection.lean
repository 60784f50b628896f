import Mathlib.Data.List.Induction
import RowBinding.Proofs.Labels
/-!
# The constructor of a shape

A constructor is satisfied by a shape when each of its parameters finds a field.  **The one selected is satisfied, no
satisfied one has more parameters, and every satisfied one declared before it has fewer** (`select?_best`); only one
constructor is best in this sense (`Best.unique`), so whatever agrees on which constructors are satisfied selects the
same one.
-/
namespace RowBinding

variable {α β γ : Type}

theorem getElem?_concat_cases {l : List β} {a b : β} {j : Nat} (h : (l ++ [a])[j]? = some b) :
    l[j]? = some b ∨ j = l.length ∧ b = a := by
  rcases Nat.lt_or_ge j l.length with hlt | hge
  · exact .inl (by rwa [List.getElem?_append_left hlt] at h)
  · rw [List.getElem?_append_right hge] at h
    have hlast : j - l.length < 1 := (List.getElem?_eq_some_iff.1 h).1
    exact .inr ⟨by omega, List.mem_singleton.1 (List.mem_of_getElem? h)⟩

namespace EntityDef

variable {e : EntityDef α} {fields : List Field}

/-! ## The fields of parameters -/

theorem parameterField?_lt {name : String} {i : Nat} (h : e.parameterField? fields name = some i) :
    i < fields.length := by
  rcases Option.or_eq_some_iff.1 h with h | ⟨-, h⟩
  · obtain ⟨m, -, h⟩ := Option.bind_eq_some_iff.1 h
    obtain ⟨d, -, h⟩ := Option.bind_eq_some_iff.1 h
    rcases Option.or_eq_some_iff.1 h with h | ⟨-, h⟩
    · obtain ⟨n, -, h⟩ := Option.bind_eq_some_iff.1 h
      exact Field.positionOf?_lt h
    · exact Field.positionOf?_lt h
  · exact Field.positionOf?_lt h

/-- **What the bindings of a satisfied constructor are**: one for each parameter, in order. -/
theorem arguments?_eq_some_iff {c : ConstructorDef α} {args : List ArgumentBinding} :
    e.arguments? fields c = some args ↔ c.params.length = args.length ∧
      ∀ (i : Nat) (p : ParamDef) (a : ArgumentBinding), c.params[i]? = some p → args[i]? = some a →
        e.parameterField? fields p.name = some a.field ∧ a.param = i ∧ a.member = e.memberNamed? p.name := by
  rw [arguments?, mapM_eq_some_iff, forall₂_zipIdx_iff (R := fun p i a => e.argument? fields p i = some a)]
  refine and_congr_right fun _ => forall₅_congr fun i p a _ _ => ?_
  rw [argument?, Nat.zero_add, Option.map_eq_some_iff]
  constructor
  · rintro ⟨f, hf, rfl⟩
    exact ⟨hf, rfl, rfl⟩
  · rintro ⟨hf, hp, hm⟩
    exact ⟨a.field, hf, by rw [← hp, ← hm]⟩

theorem arguments?_isSome_iff {c : ConstructorDef α} :
    (e.arguments? fields c).isSome = true ↔ ∀ p ∈ c.params, (e.parameterField? fields p.name).isSome = true := by
  constructor
  · intro h p hp
    obtain ⟨args, hargs⟩ := Option.isSome_iff_exists.1 h
    obtain ⟨hlen, hall⟩ := arguments?_eq_some_iff.1 hargs
    obtain ⟨i, hi⟩ := List.getElem?_of_mem hp
    obtain ⟨a, ha⟩ : ∃ a, args[i]? = some a :=
      ⟨_, List.getElem?_eq_getElem (hlen ▸ (List.getElem?_eq_some_iff.1 hi).1)⟩
    rw [(hall i p a hi ha).1]
    rfl
  · intro h
    refine Option.isSome_iff_exists.2 ⟨c.params.zipIdx.map fun pi =>
      ⟨(e.parameterField? fields pi.1.name).getD 0, pi.2, e.memberNamed? pi.1.name⟩, ?_⟩
    refine arguments?_eq_some_iff.2 ⟨by simp, fun i p a hp ha => ?_⟩
    obtain ⟨f, hf⟩ := Option.isSome_iff_exists.1 (h p (List.mem_of_getElem? hp))
    simp only [List.getElem?_map, List.getElem?_zipIdx, hp, Option.map_some, Nat.zero_add, hf, Option.getD_some,
      Option.some.injEq] at ha
    subst ha
    exact ⟨hf, rfl, rfl⟩

/-! ## The best constructor -/

/-- What makes a selection among constructors the best one. -/
def Best (e : EntityDef α) (fields : List Field) (cs : List (ConstructorDef α)) :
    Option (Nat × List ArgumentBinding) → Prop
  | none => ∀ c ∈ cs, e.arguments? fields c = none
  | some (i, args) => ∃ c, cs[i]? = some c ∧ e.arguments? fields c = some args ∧
      ∀ (j : Nat) (d : ConstructorDef α) (ds : List ArgumentBinding), cs[j]? = some d →
        e.arguments? fields d = some ds →
        ds.length ≤ args.length ∧ (j < i → ds.length < args.length)

/-- The best stays the best beside a candidate that is not satisfied, or has no more parameters. -/
theorem Best.stays {cs : List (ConstructorDef α)} {best : Option (Nat × List ArgumentBinding)}
    (h : e.Best fields cs best) {c : ConstructorDef α}
    (hc : ∀ ds, e.arguments? fields c = some ds → ∃ i args, best = some (i, args) ∧ ds.length ≤ args.length) :
    e.Best fields (cs ++ [c]) best := by
  cases best with
  | none =>
    intro d hd
    rcases List.mem_append.1 hd with hd | hd
    · exact h d hd
    · obtain rfl := List.mem_singleton.1 hd
      refine Option.eq_none_iff_forall_not_mem.2 fun ds hds => ?_
      obtain ⟨_, _, hnone, -⟩ := hc ds hds
      cases hnone
  | some best =>
    obtain ⟨i, args⟩ := best
    obtain ⟨b, hb, hargs, hmax⟩ := h
    have hi : i < cs.length := (List.getElem?_eq_some_iff.1 hb).1
    refine ⟨b, by rw [List.getElem?_append_left hi, hb], hargs, fun j d ds hd hds => ?_⟩
    rcases getElem?_concat_cases hd with hd | ⟨rfl, rfl⟩
    · exact hmax j d ds hd hds
    · obtain ⟨_, _, hbest, hle⟩ := hc ds hds
      cases hbest
      exact ⟨hle, fun hlt => absurd hlt (Nat.lt_asymm hi)⟩

/-- A satisfied candidate with more parameters than the best replaces it. -/
theorem Best.replaced {cs : List (ConstructorDef α)} {best : Option (Nat × List ArgumentBinding)}
    (h : e.Best fields cs best) {c : ConstructorDef α} {new : List ArgumentBinding}
    (hnew : e.arguments? fields c = some new)
    (hmore : ∀ i args, best = some (i, args) → args.length < new.length) :
    e.Best fields (cs ++ [c]) (some (cs.length, new)) := by
  -- what was satisfied before the candidate has fewer parameters than it
  have hfewer : ∀ {j : Nat} {d : ConstructorDef α} {ds : List ArgumentBinding}, cs[j]? = some d →
      e.arguments? fields d = some ds → ds.length < new.length := by
    intro j d ds hd hds
    cases best with
    | none =>
      rw [h d (List.mem_of_getElem? hd)] at hds
      cases hds
    | some best =>
      obtain ⟨b, hb, hargs, hmax⟩ := h
      exact Nat.lt_of_le_of_lt (hmax j d ds hd hds).1 (hmore _ _ rfl)
  refine ⟨c, by simp, hnew, fun j d ds hd hds => ?_⟩
  rcases getElem?_concat_cases hd with hd | ⟨rfl, rfl⟩
  · exact ⟨Nat.le_of_lt (hfewer hd hds), fun _ => hfewer hd hds⟩
  · rw [hnew] at hds
    cases hds
    exact ⟨Nat.le_refl _, fun hlt => absurd hlt (Nat.lt_irrefl _)⟩

theorem best_better {cs : List (ConstructorDef α)} {best : Option (Nat × List ArgumentBinding)}
    (h : e.Best fields cs best) (c : ConstructorDef α) :
    e.Best fields (cs ++ [c]) (e.better fields best (c, cs.length)) := by
  unfold better
  dsimp only
  cases hargs : e.arguments? fields c with
  | none => exact h.stays fun ds hds => by rw [hargs] at hds; cases hds
  | some new =>
    cases best with
    | none => exact h.replaced hargs fun _ _ hbest => by cases hbest
    | some best =>
      obtain ⟨i, args⟩ := best
      dsimp only
      split
      · rename_i hmore
        refine h.replaced hargs fun _ _ hbest => ?_
        cases hbest
        exact hmore
      · rename_i hmore
        refine h.stays fun ds hds => ⟨i, args, rfl, ?_⟩
        rw [hargs] at hds
        cases hds
        exact Nat.le_of_not_lt hmore

theorem best_foldl (e : EntityDef α) (fields : List Field) (cs : List (ConstructorDef α)) :
    e.Best fields cs (cs.zipIdx.foldl (e.better fields) none) := by
  induction cs using List.reverseRecOn with
  | nil => exact fun c hc => by cases hc
  | append_singleton cs c ih =>
    rw [List.zipIdx_append, List.foldl_append, Nat.zero_add]
    exact best_better ih c

/-- **The selected constructor is the best one.** -/
theorem select?_best (e : EntityDef α) (fields : List Field) :
    e.Best fields e.constructors (e.select? fields) := best_foldl e fields e.constructors

theorem select?_eq_some {i : Nat} {args : List ArgumentBinding} (h : e.select? fields = some (i, args)) :
    ∃ c, e.constructors[i]? = some c ∧ e.arguments? fields c = some args := by
  have hbest := select?_best e fields
  rw [h] at hbest
  obtain ⟨c, hc, hargs, -⟩ := hbest
  exact ⟨c, hc, hargs⟩

/-- Two shapes that satisfy the same constructors have the same best one. -/
theorem Best.unique {gs : List Field} {cs : List (ConstructorDef α)} {i j : Nat} {as bs : List ArgumentBinding}
    (hs : ∀ c ∈ cs, (e.arguments? fields c).isSome = (e.arguments? gs c).isSome)
    (hi : e.Best fields cs (some (i, as))) (hj : e.Best gs cs (some (j, bs))) : i = j := by
  obtain ⟨c, hc, has, himax⟩ := hi
  obtain ⟨d, hd, hbs, hjmax⟩ := hj
  obtain ⟨cs', hcs'⟩ : ∃ cs', e.arguments? gs c = some cs' := by
    rw [← Option.isSome_iff_exists, ← hs c (List.mem_of_getElem? hc), has]
    rfl
  obtain ⟨ds', hds'⟩ : ∃ ds', e.arguments? fields d = some ds' := by
    rw [← Option.isSome_iff_exists, hs d (List.mem_of_getElem? hd), hbs]
    rfl
  have h1 := himax j d ds' hd hds'
  have h2 := hjmax i c cs' hc hcs'
  have := (arguments?_eq_some_iff.1 has).1
  have := (arguments?_eq_some_iff.1 hbs).1
  have := (arguments?_eq_some_iff.1 hcs').1
  have := (arguments?_eq_some_iff.1 hds').1
  omega

end EntityDef

end RowBinding
