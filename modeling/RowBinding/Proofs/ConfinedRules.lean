import RowBinding.Entity.Blueprint
import RowBinding.Proofs.StoreOrder
import RowBinding.Rules.Scripted
import RowBinding.Sample.Cents
/-!
# Rules stay with their types

Two sets of rules are compared by what they say of single types.  **A plan looks only at what the rules say of the types
it is for, and whether there is a plan does not depend on the rules at all** (`Plan.rules_confined`).  Of the two types
that a parameter may have rules of, its own comes first: where that one has a rule for the member the other is not asked.
-/
namespace RowBinding

variable {α β γ : Type}

/-- Both succeed, or both fail in one way. -/
def Result.EndsAs (r : Result β) (s : Result γ) : Prop := (r.map fun _ => ()) = s.map fun _ => ()

theorem Result.endsAs_bind {δ : Type} (r : Result β) {f : β → Result γ} {g : β → Result δ}
    (h : ∀ b, (f b).EndsAs (g b)) : (r >>= f).EndsAs (r >>= g) := by
  cases r with
  | error e => rfl
  | ok b => exact h b

/-! ## Rules that agree -/

namespace Rules

/-- The rules have the same settings, and the same storage types for types of values. -/
structure AgreeAtLarge (r s : Rules α) : Prop where
  settings : r.settings = s.settings
  storage (t : ValueType) : r.typeStorage? t = s.typeStorage? t

/-- The rules have the same handlers and the same storage types for the members of a type. -/
structure AgreeOn (r s : Rules α) (owner : TypeName) : Prop where
  handler (member : String) : r.valueHandler? owner member = s.valueHandler? owner member
  storage (member : String) : r.memberStorage? owner member = s.memberStorage? owner member

/-- The rules say the same of the parameter of a member.  They do so of the member itself; of the type that it is read
through they need to say the same of handlers only where the member has no handler of its own, and likewise of storage
types. -/
structure AgreeFor (r s : Rules α) (p : Fingerprint) (member : String) : Prop where
  handler : r.valueHandler? p.target member = s.valueHandler? p.target member
  storage : r.memberStorage? p.target member = s.memberStorage? p.target member
  throughHandler : r.valueHandler? p.target member = none →
    ∀ owner, p.source = some owner → ∀ n, r.valueHandler? owner n = s.valueHandler? owner n
  throughStorage : r.memberStorage? p.target member = none →
    ∀ owner, p.source = some owner → ∀ n, r.memberStorage? owner n = s.memberStorage? owner n

variable {r s : Rules α} {p : Fingerprint}

theorem agreeFor_of_agreeOn (h : ∀ owner, owner = p.target ∨ p.source = some owner → r.AgreeOn s owner)
    (member : String) : r.AgreeFor s p member where
  handler := (h p.target (.inl rfl)).handler member
  storage := (h p.target (.inl rfl)).storage member
  throughHandler _ owner howner := (h owner (.inr howner)).handler
  throughStorage _ owner howner := (h owner (.inr howner)).storage

/-! ## Resolution -/

theorem resolveInbound_congr {target : TypeName} {member : String} (hmode : r.settings.mode = s.settings.mode)
    (h : r.valueHandler? target member = s.valueHandler? target member) (memberType fieldType : ValueType) :
    r.resolveInbound target member memberType fieldType = s.resolveInbound target member memberType fieldType := by
  unfold resolveInbound
  rw [hmode, h]

theorem resolveOutbound_congr (h : r.AgreeAtLarge s) {members : List OutboundMember}
    (hhandler : r.firstHandler? members = s.firstHandler? members)
    (hstorage : (members.findSome? fun m => r.memberStorage? m.owner m.name) =
      members.findSome? fun m => s.memberStorage? m.owner m.name) (memberType : ValueType) (fieldType? : Option ValueType) :
    r.resolveOutbound members memberType fieldType? = s.resolveOutbound members memberType fieldType? := by
  have htoward : r.towardField = s.towardField := by
    unfold towardField
    rw [h.settings]
  have hstorageOf : r.storageOf members = s.storageOf members := by
    funext t
    unfold storageOf
    rw [hstorage, h.storage, h.settings]
  unfold resolveOutbound
  rw [hhandler, htoward, hstorageOf]

theorem findSome?_congr {look look' : β → Option γ} {bs : List β} (h : ∀ b ∈ bs, look b = look' b) :
    bs.findSome? look = bs.findSome? look' := by
  induction bs with
  | nil => rfl
  | cons b bs ih =>
    rw [List.findSome?_cons, List.findSome?_cons, h b List.mem_cons_self,
      ih fun c hc => h c (List.mem_cons_of_mem b hc)]

/-- What the first one of several gives, the rest are not asked for. -/
theorem findSome?_cons_congr {look look' : β → Option γ} {b : β} {bs : List β} (hfirst : look b = look' b)
    (hrest : look b = none → ∀ c ∈ bs, look c = look' c) : (b :: bs).findSome? look = (b :: bs).findSome? look' := by
  rw [List.findSome?_cons, List.findSome?_cons, ← hfirst]
  cases hb : look b with
  | some _ => rfl
  | none => exact findSome?_congr (hrest hb)

end Rules

/-! ## Plans -/

namespace Plan

variable {r s : Rules α} {e : EntityDef α} {source : TypeDef α} {p : Fingerprint}

theorem endsAs_ofRow (r s : Rules α) (d : TypeDef α) (p : Fingerprint) : (ofRow r d p).EndsAs (ofRow s d p) :=
  Result.endsAs_bind _ fun _ => rfl

theorem endsAs_ofParameters (r s : Rules α) (d source : TypeDef α) (p : Fingerprint) :
    (ofParameters r d source p).EndsAs (ofParameters s d source p) := by
  refine Result.endsAs_bind _ fun bindings => ?_
  cases d <;> rfl

theorem ofRow_congr (hmode : r.settings.mode = s.settings.mode)
    (h : ∀ member, r.valueHandler? p.target member = s.valueHandler? p.target member) (d : TypeDef α) :
    ofRow r d p = ofRow s d p := by
  have hrule : r.resolveInbound p.target = s.resolveInbound p.target := by
    funext member memberType fieldType
    exact Rules.resolveInbound_congr hmode (h member) memberType fieldType
  have hoperations : inboundOperations r p d = inboundOperations s p d := by
    funext analysis
    unfold inboundOperations scalarOperation argumentOperation? assignmentOperation?
    rw [hrule]
  unfold ofRow
  rw [hoperations]

/-- After the member of the parameter itself only members of the type it is read through are asked. -/
theorem owner_of_outboundMembers (p : Fingerprint) (source : TypeDef α) (m : MemberDef α) (b : ParameterBinding) :
    ∃ through, outboundMembers p source m b = ⟨p.target, m.name⟩ :: through ∧
      ∀ n ∈ through, p.source = some n.owner := by
  refine ⟨_, rfl, fun n hn => ?_⟩
  obtain ⟨owner, howner, hn⟩ := Option.bind_eq_some_iff.1 (Option.mem_toList.1 hn)
  obtain ⟨i, -, hn⟩ := Option.bind_eq_some_iff.1 hn
  cases source with
  | scalar _ => cases hn
  | entity e =>
    obtain ⟨counterpart, -, hn⟩ := Option.bind_eq_some_iff.1 hn
    rw [howner, ← Option.some.inj hn]

/-- **Rules that say the same of a parameter plan the same operation for it.** -/
theorem outboundOperation?_congr (h : r.AgreeAtLarge s) {b : ParameterBinding}
    (hmember : ∀ m, e.members[b.member]? = some m → r.AgreeFor s p m.name) :
    outboundOperation? r p e source b = outboundOperation? s p e source b := by
  refine Option.bind_congr fun m hm => ?_
  have hagree := hmember m hm
  obtain ⟨through, hmembers, howner⟩ := owner_of_outboundMembers p source m b
  -- the member itself is asked first, so the type it is read through counts only where that finds nothing
  have hhandler : r.firstHandler? (outboundMembers p source m b) = s.firstHandler? (outboundMembers p source m b) := by
    rw [hmembers]
    exact Rules.findSome?_cons_congr hagree.handler fun hnone n hn =>
      hagree.throughHandler hnone n.owner (howner n hn) n.name
  have hstorage : ((outboundMembers p source m b).findSome? fun n => r.memberStorage? n.owner n.name) =
      (outboundMembers p source m b).findSome? fun n => s.memberStorage? n.owner n.name := by
    rw [hmembers]
    exact Rules.findSome?_cons_congr hagree.storage fun hnone n hn =>
      hagree.throughStorage hnone n.owner (howner n hn) n.name
  have hrule := Rules.resolveOutbound_congr h hhandler hstorage m.type
  dsimp only
  rw [hrule]

theorem ofParameters_congr (h : r.AgreeAtLarge s)
    (htypes : ∀ owner, owner = p.target ∨ p.source = some owner → r.AgreeOn s owner) (d source : TypeDef α) :
    ofParameters r d source p = ofParameters s d source p := by
  have hoperation : ∀ e, outboundOperation? r p e source = outboundOperation? s p e source := by
    intro e
    funext b
    exact outboundOperation?_congr h fun m _ => Rules.agreeFor_of_agreeOn htypes m.name
  unfold ofParameters
  simp only [hoperation]

/-- The plans have their operations for the same members, and one operation where the rules say the same. -/
theorem forall₂_operations (h : r.AgreeAtLarge s) {a b : Plan} (ha : ofParameters r (.entity e) source p = .ok a)
    (hb : ofParameters s (.entity e) source p = .ok b) : List.Forall₂ (fun x y => x.source = y.source ∧
      ∀ m, e.members[x.source]? = some m → r.AgreeFor s p m.name → x = y) a.operations b.operations := by
  obtain ⟨bs, hbs, -, hleft⟩ := ofParameters_entity ha
  obtain ⟨bs', hbs', -, hright⟩ := ofParameters_entity hb
  obtain rfl := Except.ok.inj (hbs.symm.trans hbs')
  refine forall₂_comp (fun x binding y hx hy => ?_) hleft.flip hright
  obtain ⟨m, hm, hxm⟩ := Option.bind_eq_some_iff.1 hx
  obtain ⟨n, -, hyn⟩ := Option.bind_eq_some_iff.1 hy
  have hsource : x.source = binding.member := by rw [← Option.some.inj hxm]
  refine ⟨by rw [hsource, ← Option.some.inj hyn], fun k hk hagree => ?_⟩
  have hsame : outboundOperation? r p e source binding = outboundOperation? s p e source binding := by
    refine outboundOperation?_congr h fun l hl => ?_
    rw [hsource] at hk
    rwa [Option.some.inj (hl.symm.trans hk)]
  exact Option.some.inj ((hx.symm.trans hsame).trans hy)

/-- **Rules do not reach beyond their types.**
- Whether there is a plan does not depend on the rules, nor does the way in which planning fails.
- The plan of a row depends on the conversion mode and on the handlers for the members of its type, and on nothing else.
- The plan of parameters depends on the settings, on the storage types for types of values, and on the handlers and the
  storage types for the members of the type and of the type it is read through.
- The operation of a single member depends on the type that the parameters are read through only as far as the member
  has no handler, or no storage type, of its own. -/
theorem rules_confined (r s : Rules α) (d source : TypeDef α) (p : Fingerprint) :
    (ofRow r d p).EndsAs (ofRow s d p) ∧ (ofParameters r d source p).EndsAs (ofParameters s d source p) ∧
      (r.settings.mode = s.settings.mode →
        (∀ member, r.valueHandler? p.target member = s.valueHandler? p.target member) → ofRow r d p = ofRow s d p) ∧
      (r.AgreeAtLarge s →
        ((∀ owner, owner = p.target ∨ p.source = some owner → r.AgreeOn s owner) →
          ofParameters r d source p = ofParameters s d source p) ∧
        ∀ e a b, d = .entity e → ofParameters r d source p = .ok a → ofParameters s d source p = .ok b →
          List.Forall₂ (fun x y => x.source = y.source ∧
            ∀ m, e.members[x.source]? = some m → r.AgreeFor s p m.name → x = y) a.operations b.operations) := by
  refine ⟨endsAs_ofRow r s d p, endsAs_ofParameters r s d source p, fun hmode h => ofRow_congr hmode h d, fun h => ?_⟩
  refine ⟨fun htypes => ofParameters_congr h htypes d source, ?_⟩
  rintro e a b rfl ha hb
  exact forall₂_operations h ha hb

/-! ## A handler on either side

The total of a bill has a handler of its own, and so has the total of the sale that the bill may be read through. -/

/-- A bill. -/
def bill : Blueprint where
  name := "Bill"
  members := [⟨"total", Sample.decimal, none, false⟩, ⟨"note", .base .string, none, false⟩]
  constructors := [⟨"new", [], none⟩]

/-- Rules for bills, and some handler for the totals of sales. -/
def billRules (handler : ValueHandler) : Rules Assembly :=
  { Rules.ofSettings {} with
    valueHandlers :=
      (Registry.empty.insert (memberKey "Bill" "total") Sample.cents).insert (memberKey "Sale" "total") handler }

theorem billRules_agreeAtLarge (handler handler' : ValueHandler) :
    (billRules handler).AgreeAtLarge (billRules handler') where
  settings := rfl
  storage _ := rfl

theorem billRules_agreeOn (handler handler' : ValueHandler) : (billRules handler).AgreeOn (billRules handler') "Bill" where
  handler member := by
    have howner : ¬ ("Bill" : TypeName) = "Sale" := by decide
    have hother : ¬ memberKey "Bill" member = memberKey "Sale" "total" := fun h => howner (congrArg Prod.fst h)
    have hbill : ∀ h, (billRules h).valueHandler? "Bill" member =
        (Registry.empty.insert (memberKey "Bill" "total") Sample.cents).find? (memberKey "Bill" member) := by
      intro h
      rw [Rules.valueHandler?, billRules, Registry.find?_insert, if_neg hother]
    rw [hbill, hbill]
  storage _ := rfl

/-- The parameters of a bill that is read through a sale. -/
def billThroughSale : Fingerprint := .objectToParameters "Bill" "Sale" []

theorem billRules_agreeFor (handler handler' : ValueHandler) :
    (billRules handler).AgreeFor (billRules handler') billThroughSale "total" where
  handler := (billRules_agreeOn handler handler').handler "total"
  storage := rfl
  throughHandler hnone := by
    rw [Rules.valueHandler?, billRules, Registry.find?_insert, if_neg (by decide), Registry.find?_insert] at hnone
    cases hnone
  throughStorage _ _ _ _ := rfl

theorem rules_confined_bill :
    let upper := billRules (.ofSteps .varchar .pass .upper)
    let failing := billRules (.ofSteps .varchar .pass (.fail "no"))
    let d : TypeDef Assembly := .entity bill.entity
    ofRow upper d (.rowToObject "Bill" []) = ofRow failing d (.rowToObject "Bill" []) ∧
      ofParameters upper d d (.objectToParameters "Bill" "Bill" []) =
        ofParameters failing d d (.objectToParameters "Bill" "Bill" []) ∧
      ∃ a b, ofParameters upper d d billThroughSale = .ok a ∧ ofParameters failing d d billThroughSale = .ok b ∧
        a.operations.map (fun op => (op.source, op.type)) = [(0, .integer .int64), (1, .varchar)] ∧
        List.Forall₂ (fun x y => x.source = 0 → x = y) a.operations b.operations := by
  intro upper failing d
  have hlarge : upper.AgreeAtLarge failing := billRules_agreeAtLarge _ _
  have hbill : upper.AgreeOn failing "Bill" := billRules_agreeOn _ _
  have hself : ∀ owner, owner = "Bill" ∨ some "Bill" = some owner → upper.AgreeOn failing owner := by
    rintro owner (rfl | h)
    · exact hbill
    · exact Option.some.inj h ▸ hbill
  refine ⟨(rules_confined upper failing d d _).2.2.1 rfl hbill.handler,
    ((rules_confined upper failing d d _).2.2.2 hlarge).1 hself, ?_⟩
  have hplan : ∀ rules : Rules Assembly, ofParameters rules d d billThroughSale = .ok ⟨billThroughSale, .memberInit, none,
      (bill.entity.members.zipIdx.map fun mi => mi.1.parameterBinding mi.2 (d.through? billThroughSale) []).filterMap
        (outboundOperation? rules billThroughSale bill.entity d)⟩ := by
    intro rules
    rw [ofParameters, analyzeParameters_declared rfl rfl]
    rfl
  have hsame := ((rules_confined upper failing d d _).2.2.2 hlarge).2 bill.entity _ _ rfl (hplan upper) (hplan failing)
  refine ⟨_, _, hplan upper, hplan failing, by decide, hsame.imp fun x y h hx => ?_⟩
  have htotal : bill.entity.members[x.source]? = some (Blueprint.memberDef ⟨"total", Sample.decimal, none, false⟩ 0) := by
    rw [hx]
    rfl
  exact h.2 _ htotal (billRules_agreeFor _ _)

end Plan

end RowBinding
