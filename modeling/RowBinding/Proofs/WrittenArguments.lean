import RowBinding.Derive.Declaration
import RowBinding.Proofs.RelatedLists
/-!
# Arguments as they are written

Beside the readers of argument lists stand the grammars of what they read: paths, names in brackets, the arguments of
fields and of structs, and lists of arguments with commas between them.  **A list is read to its end exactly if it is
written so** (`ArgumentList.read_eq_iff_written`), **and reading stops at a fault of syntax exactly if it breaks off**
(`ArgumentList.read_fault_iff_breaksOff`): behind some arguments stands something that no argument begins with, or no
comma.
-/
namespace RowBinding.Derive

/-! ## Paths -/

/-- A path that ends here would go on. -/
def GoesOn (after : List Token) : Prop := ∃ joined rest, after = .sign ':' true :: .sign ':' joined :: rest

theorem not_goesOn_sign {c : Char} (hc : c ≠ ':') (joined : Bool) (rest : List Token) :
    ¬ GoesOn (.sign c joined :: rest) := by
  rintro ⟨j, rest', h⟩
  injection h with h
  injection h with h
  exact hc h

theorem not_goesOn_nil : ¬ GoesOn [] := by
  rintro ⟨j, rest, h⟩
  cases h

namespace ArgumentPath

/-- The words of a path after its first one, with what stands behind the path. -/
inductive WrittenMore : List String → List Token → List Token → Prop
  | nil {after : List Token} (h : ¬ GoesOn after) : WrittenMore [] [] after
  | cons {name : String} {names : List String} {ts after : List Token} (joined : Bool)
      (h : WrittenMore names ts after) :
      WrittenMore (name :: names) (.sign ':' true :: .sign ':' joined :: .word name :: ts) after

/-- A path, with what stands behind it. -/
inductive Written : ArgumentPath → List Token → List Token → Prop
  | plain {name : String} {names : List String} {ts after : List Token} (h : WrittenMore names ts after) :
      Written ⟨false, name :: names⟩ (.word name :: ts) after
  | rooted {name : String} {names : List String} {ts after : List Token} (joined : Bool)
      (h : WrittenMore names ts after) :
      Written ⟨true, name :: names⟩ (.sign ':' true :: .sign ':' joined :: .word name :: ts) after

variable {ts after : List Token} {names : List String} {p : ArgumentPath}

theorem readMore_of_written (h : WrittenMore names ts after) : readMore (ts ++ after) = .ok (names, after) := by
  induction h with
  | nil h =>
    rw [List.nil_append, readMore]
    · rintro joined name rest rfl
      exact h ⟨joined, _, rfl⟩
    · rintro joined rest rfl
      exact h ⟨joined, _, rfl⟩
  | cons joined h ih =>
    simp only [List.cons_append, readMore]
    rw [ih]
    rfl

theorem written_of_readMore (h : readMore ts = .ok (names, after)) :
    ∃ pre, ts = pre ++ after ∧ WrittenMore names pre after := by
  induction ts using readMore.induct generalizing names with
  | case1 joined name rest ih =>
    rw [readMore] at h
    obtain ⟨⟨more, rest'⟩, hmore, hcons⟩ := Result.bind_eq_ok_iff.1 h
    cases hcons
    obtain ⟨pre, rfl, hpre⟩ := ih hmore
    exact ⟨_, rfl, .cons joined hpre⟩
  | case2 joined rest hword =>
    rw [readMore] at h
    · cases h
    · exact hword
  | case3 rest hwords hcolons =>
    rw [readMore] at h
    · cases h
      refine ⟨[], rfl, .nil ?_⟩
      rintro ⟨joined, rest', rfl⟩
      exact hcolons joined rest' rfl
    · exact hwords
    · exact hcolons

/-- **A path is read off the beginning exactly if it is written there**, and it goes on as far as it can. -/
theorem read_eq_ok_iff : read ts = .ok (p, after) ↔ ∃ pre, ts = pre ++ after ∧ Written p pre after := by
  constructor
  · intro h
    unfold read at h
    split at h
    · rename_i joined rest
      cases rest with
      | nil => cases h
      | cons t rest =>
        cases t with
        | word name =>
          obtain ⟨⟨names, rest'⟩, hmore, hcons⟩ := Result.bind_eq_ok_iff.1 h
          cases hcons
          obtain ⟨pre, rfl, hpre⟩ := written_of_readMore hmore
          exact ⟨_, rfl, .rooted joined hpre⟩
        | _ => cases h
    · cases ts with
      | nil => cases h
      | cons t rest =>
        cases t with
        | word name =>
          obtain ⟨⟨names, rest'⟩, hmore, hcons⟩ := Result.bind_eq_ok_iff.1 h
          cases hcons
          obtain ⟨pre, rfl, hpre⟩ := written_of_readMore hmore
          exact ⟨_, rfl, .plain hpre⟩
        | _ => cases h
  · rintro ⟨pre, rfl, h⟩
    cases h with
    | plain h =>
      show (readMore (_ ++ after) >>= _) = _
      rw [readMore_of_written h]
      rfl
    | rooted joined h =>
      show (readMore (_ ++ after) >>= _) = _
      rw [readMore_of_written h]
      rfl

/-- No path begins here. -/
def Missing (ts : List Token) : Prop := ∀ path pre after, ts = pre ++ after → ¬ Written path pre after

theorem written_word_iff {word : String} : Written ⟨false, [word]⟩ ts after ↔ ts = [.word word] ∧ ¬ GoesOn after := by
  constructor
  · intro h
    cases h with
    | plain h =>
      cases h with
      | nil h => exact ⟨rfl, h⟩
  · rintro ⟨rfl, h⟩
    exact .plain (.nil h)

theorem isWord_iff {word : String} : p.isWord word = true ↔ p = ⟨false, [word]⟩ := by
  obtain ⟨rooted, words⟩ := p
  simp only [isWord, Bool.and_eq_true, Bool.not_eq_true', beq_iff_eq, mk.injEq]

end ArgumentPath

/-! ## Lists -/

namespace ArgumentList

variable {β : Type}

/-- Arguments with commas between them, and perhaps one behind the last.  How an argument is written may depend on what
stands behind it. -/
inductive Written (writes : β → List Token → List Token → Prop) : List β → List Token → Prop
  | nil : Written writes [] []
  | last {b : β} {ts : List Token} (h : writes b ts []) : Written writes [b] ts
  | cons {b : β} {bs : List β} {ts rest : List Token} (joined : Bool) (h : writes b ts (.sign ',' joined :: rest))
      (hrest : Written writes bs rest) : Written writes (b :: bs) (ts ++ .sign ',' joined :: rest)

/-- Arguments with commas between them, and behind them something that no argument begins with, or that is no comma. -/
inductive BreaksOff (writes : β → List Token → List Token → Prop) (fails : List Token → Prop) :
    List β → List Token → Prop
  | argument {ts : List Token} (hne : ts ≠ []) (h : fails ts) : BreaksOff writes fails [] ts
  | comma {b : β} {ts after : List Token} (h : writes b ts after) (hne : after ≠ [])
      (hcomma : ∀ joined rest, after ≠ .sign ',' joined :: rest) : BreaksOff writes fails [b] (ts ++ after)
  | cons {b : β} {bs : List β} {ts rest : List Token} (joined : Bool) (h : writes b ts (.sign ',' joined :: rest))
      (hrest : BreaksOff writes fails bs rest) : BreaksOff writes fails (b :: bs) (ts ++ .sign ',' joined :: rest)

/-- What a reader accepts is written in one way, and takes at least a token. -/
structure Accepts (reader : Reader β) (writes : β → List Token → List Token → Prop) : Prop where
  ne_nil : ∀ {b : β} {ts after : List Token}, writes b ts after → ts ≠ []
  ok_iff : ∀ {b : β} {ts after : List Token},
    readFirst reader ts = .ok (b, after) ↔ ∃ pre, ts = pre ++ after ∧ writes b pre after

variable {reader : Reader β} {writes : β → List Token → List Token → Prop} {fails : List Token → Prop}
  {b : β} {bs : List β} {ts after rest : List Token} {stop : Stop}

theorem length_lt_append_cons (pre : List Token) (t : Token) (rest : List Token) :
    rest.length < (pre ++ t :: rest).length := by
  rw [List.length_append, List.length_cons]
  omega

/-! The reader of lists, by what its first argument and what follows it come to. -/

theorem read_nil (reader : Reader β) : read reader [] = ⟨[], none⟩ := by
  rw [read]
  rfl

theorem read_of_ne_nil (hne : ts ≠ []) : read reader ts =
    match readFirst reader ts with
    | .error stop => ⟨[], some stop⟩
    | .ok (b, after) =>
      match afterComma after with
      | .error stop => ⟨[b], some stop⟩
      | .ok rest => if rest.length < ts.length then (read reader rest).cons b else ⟨[b], none⟩ := by
  rw [read, if_neg (by simpa using hne)]
  rfl

theorem read_of_error (hne : ts ≠ []) (h : readFirst reader ts = .error stop) : read reader ts = ⟨[], some stop⟩ := by
  rw [read_of_ne_nil hne, h]

theorem read_of_last (h : readFirst reader ts = .ok (b, [])) (hne : ts ≠ []) : read reader ts = ⟨[b], none⟩ := by
  have hlt : ([] : List Token).length < ts.length := List.length_pos_iff.2 hne
  simp only [read_of_ne_nil hne, h, afterComma]
  rw [if_pos hlt, read_nil]
  rfl

theorem read_of_comma {joined : Bool} (h : readFirst reader ts = .ok (b, .sign ',' joined :: rest))
    (hlt : rest.length < ts.length) : read reader ts = (read reader rest).cons b := by
  have hne : ts ≠ [] := List.ne_nil_of_length_pos (by omega)
  simp only [read_of_ne_nil hne, h, afterComma]
  rw [if_pos hlt]

theorem read_of_noComma (h : readFirst reader ts = .ok (b, after)) (hts : ts ≠ []) (hne : after ≠ [])
    (hcomma : ∀ joined rest, after ≠ .sign ',' joined :: rest) :
    read reader ts = ⟨[b], some (.fault .comma)⟩ := by
  have hafter : afterComma after = .error (.fault .comma) := by
    unfold afterComma
    split
    · exact absurd rfl hne
    · exact absurd rfl (hcomma _ _)
    · rfl
  simp only [read_of_ne_nil hts, h, hafter]

namespace Accepts

variable (ha : Accepts reader writes)

include ha

theorem readFirst_append (h : writes b ts after) : readFirst reader (ts ++ after) = .ok (b, after) :=
  ha.ok_iff.2 ⟨ts, rfl, h⟩

theorem read_of_written (h : Written writes bs ts) : read reader ts = ⟨bs, none⟩ := by
  induction h with
  | nil => exact read_nil reader
  | last h =>
    have hfirst := ha.readFirst_append h
    rw [List.append_nil] at hfirst
    exact read_of_last hfirst (ha.ne_nil h)
  | cons joined h hrest ih =>
    rw [read_of_comma (ha.readFirst_append h) (length_lt_append_cons ..), ih]
    rfl

theorem read_of_breaksOff (hfails : ∀ ts, fails ts → ∃ f, readFirst reader ts = .error (.fault f))
    (h : BreaksOff writes fails bs ts) : ∃ f, read reader ts = ⟨bs, some (.fault f)⟩ := by
  induction h with
  | argument hne h =>
    obtain ⟨f, hf⟩ := hfails _ h
    exact ⟨f, read_of_error hne hf⟩
  | comma h hne hcomma =>
    refine ⟨.comma, read_of_noComma (ha.readFirst_append h) ?_ hne hcomma⟩
    exact List.append_ne_nil_of_left_ne_nil (ha.ne_nil h) _
  | cons joined h hrest ih =>
    obtain ⟨f, hf⟩ := ih
    refine ⟨f, ?_⟩
    rw [read_of_comma (ha.readFirst_append h) (length_lt_append_cons ..), hf]
    rfl

/-- A list that is read to its end is written, and one whose reading stops at a fault breaks off. -/
theorem written_or_breaksOff (hfails : ∀ ts, (∃ f, readFirst reader ts = .error (.fault f)) → fails ts)
    (ts : List Token) :
    ((read reader ts).stop = none → Written writes (read reader ts).arguments ts) ∧
      ∀ f, (read reader ts).stop = some (.fault f) → BreaksOff writes fails (read reader ts).arguments ts := by
  -- The arguments behind a comma are a shorter list of their own.
  induction hn : ts.length using Nat.strongRecOn generalizing ts with
  | ind n ih =>
    subst hn
    rcases eq_or_ne ts [] with rfl | hne
    · rw [read_nil]
      exact ⟨fun _ => .nil, fun f h => by cases h⟩
    · cases hfirst : readFirst reader ts with
      | error stop =>
        rw [read_of_error hne hfirst]
        refine ⟨fun h => (by cases h), fun f h => .argument hne (hfails ts ⟨f, ?_⟩)⟩
        rw [hfirst, Option.some.inj h]
      | ok first =>
        obtain ⟨b, after⟩ := first
        obtain ⟨pre, rfl, hb⟩ := ha.ok_iff.1 hfirst
        by_cases hcomma : ∃ joined rest, after = .sign ',' joined :: rest
        · obtain ⟨joined, rest, rfl⟩ := hcomma
          have hlt := length_lt_append_cons pre (.sign ',' joined) rest
          obtain ⟨hwritten, hbreaks⟩ := ih _ hlt rest rfl
          rw [read_of_comma hfirst hlt]
          exact ⟨fun h => .cons joined hb (hwritten h), fun f h => .cons joined hb (hbreaks f h)⟩
        · rcases eq_or_ne after [] with rfl | hafter
          · rw [read_of_last hfirst hne, List.append_nil]
            exact ⟨fun _ => .last hb, fun f h => by cases h⟩
          · have hnone : ∀ joined rest, after ≠ .sign ',' joined :: rest := fun j r h => hcomma ⟨j, r, h⟩
            rw [read_of_noComma hfirst hne hafter hnone]
            exact ⟨fun h => (by cases h), fun f _ => .comma hb hafter hnone⟩

/-- **A list is read to its end exactly if it is written with commas between its arguments.** -/
theorem read_eq_iff_written : read reader ts = ⟨bs, none⟩ ↔ Written writes bs ts := by
  refine ⟨fun h => ?_, ha.read_of_written⟩
  -- Which faults there are does not matter here, so they stand for what the reader fails at.
  have hwritten := (ha.written_or_breaksOff (fun _ hfault => hfault) ts).1
  rw [h] at hwritten
  exact hwritten rfl

/-- **Reading stops at a fault of syntax exactly if the list breaks off**, and the arguments before the fault have been
read. -/
theorem read_fault_iff_breaksOff (hfails : ∀ ts, (∃ f, readFirst reader ts = .error (.fault f)) ↔ fails ts) :
    (∃ f, read reader ts = ⟨bs, some (.fault f)⟩) ↔ BreaksOff writes fails bs ts := by
  refine ⟨?_, ha.read_of_breaksOff fun ts => (hfails ts).2⟩
  rintro ⟨f, h⟩
  have hbreaks := (ha.written_or_breaksOff (fun ts => (hfails ts).1) ts).2
  rw [h] at hbreaks
  exact hbreaks f rfl

end Accepts

theorem readFirst_eq_ok_iff : readFirst reader ts = .ok (b, after) ↔
    ∃ path pre rest, ts = pre ++ rest ∧ ArgumentPath.Written path pre rest ∧ reader path rest = .ok (b, after) := by
  have hpath : ∀ path rest, (ArgumentPath.read ts).mapError Stop.fault = .ok (path, rest) ↔
      ∃ pre, ts = pre ++ rest ∧ ArgumentPath.Written path pre rest := by
    intro path rest
    rw [← ArgumentPath.read_eq_ok_iff]
    cases ArgumentPath.read ts with
    | error f => exact ⟨fun h => (by cases h), fun h => (by cases h)⟩
    | ok found => exact ⟨fun h => (by cases h; rfl), fun h => (by cases h; rfl)⟩
  rw [readFirst, Result.bind_eq_ok_iff]
  constructor
  · rintro ⟨⟨path, rest⟩, hread, hreader⟩
    obtain ⟨pre, hts, hwritten⟩ := (hpath path rest).1 hread
    exact ⟨path, pre, rest, hts, hwritten, hreader⟩
  · rintro ⟨path, pre, rest, hts, hwritten, hreader⟩
    exact ⟨(path, rest), (hpath path rest).2 ⟨pre, hts, hwritten⟩, hreader⟩

/-- If the reader finds no fault of syntax behind a path, there is one only where no path begins. -/
theorem readFirst_fault_iff (hreader : ∀ path rest f, reader path rest ≠ .error (.fault f)) :
    (∃ f, readFirst reader ts = .error (.fault f)) ↔ ArgumentPath.Missing ts := by
  rw [readFirst]
  cases hread : ArgumentPath.read ts with
  | error f =>
    refine iff_of_true ⟨f, rfl⟩ fun path pre rest hts hwritten => ?_
    cases hread.symm.trans (ArgumentPath.read_eq_ok_iff.2 ⟨pre, hts, hwritten⟩)
  | ok found =>
    obtain ⟨path, rest⟩ := found
    obtain ⟨pre, hts, hwritten⟩ := ArgumentPath.read_eq_ok_iff.1 hread
    refine iff_of_false ?_ fun hmissing => hmissing path pre rest hts hwritten
    rintro ⟨f, hf⟩
    exact hreader path rest f hf

end ArgumentList

theorem readText_bind_eq_ok_iff {β : Type} {of : String → β} {b : β} {ts after : List Token} :
    (do let (text, rest) ← readText ts; return (of text, rest)) = Except.ok (b, after) ↔
      ∃ joined source text, ts = .sign '=' joined :: .literal source (.text text) :: after ∧ b = of text := by
  constructor
  · intro h
    obtain ⟨⟨text, rest⟩, htext, hb⟩ := Result.bind_eq_ok_iff.1 h
    cases hb
    unfold readText at htext
    split at htext
    · cases htext
      exact ⟨_, _, text, rfl, rfl⟩
    · cases htext
  · rintro ⟨joined, source, text, rfl, rfl⟩
    rfl

/-! ## Arguments of fields -/

namespace FieldArgument

/-- An argument of a field, with what stands behind it: a name in the store, or one of two words. -/
inductive Written : FieldArgument → List Token → List Token → Prop
  | name (joined : Bool) (source text : String) {after : List Token} :
    Written (.name text) [.word "name", .sign '=' joined, .literal source (.text text)] after
  | readOnly {after : List Token} (h : ¬ GoesOn after) : Written .readOnly [.word "read_only"] after
  | skip {after : List Token} (h : ¬ GoesOn after) : Written .skip [.word "skip"] after

variable {b : FieldArgument} {path : ArgumentPath} {ts after : List Token}

theorem read_eq_ok_iff : read path ts = .ok (b, after) ↔
    (path = ⟨false, ["name"]⟩ ∧ ∃ joined source text,
      ts = .sign '=' joined :: .literal source (.text text) :: after ∧ b = .name text) ∨
    (path = ⟨false, ["read_only"]⟩ ∧ ts = after ∧ b = .readOnly) ∨
    (path = ⟨false, ["skip"]⟩ ∧ ts = after ∧ b = .skip) := by
  constructor
  · intro h
    unfold read at h
    split at h
    · rename_i hpath
      exact .inl ⟨ArgumentPath.isWord_iff.1 hpath, readText_bind_eq_ok_iff.1 h⟩
    · split at h
      · rename_i hpath
        cases h
        exact .inr (.inl ⟨ArgumentPath.isWord_iff.1 hpath, rfl, rfl⟩)
      · split at h
        · rename_i hpath
          cases h
          exact .inr (.inr ⟨ArgumentPath.isWord_iff.1 hpath, rfl, rfl⟩)
        · cases h
  · rintro (⟨rfl, joined, source, text, rfl, rfl⟩ | ⟨rfl, rfl, rfl⟩ | ⟨rfl, rfl, rfl⟩) <;> rfl

theorem read_ne_fault (path : ArgumentPath) (ts : List Token) (f : SyntaxFault) :
    read path ts ≠ .error (.fault f) := by
  intro h
  unfold read at h
  split at h
  · unfold readText at h
    split at h <;> cases h
  · split at h
    · cases h
    · split at h <;> cases h

/-- **The reader of fields accepts what is written in the three ways.** -/
theorem accepts : ArgumentList.Accepts read Written where
  ne_nil h := by cases h <;> exact List.cons_ne_nil _ _
  ok_iff {b ts after} := by
    rw [ArgumentList.readFirst_eq_ok_iff]
    constructor
    · rintro ⟨path, pre, rest, rfl, hpath, hread⟩
      rcases read_eq_ok_iff.1 hread with ⟨rfl, joined, source, text, rfl, rfl⟩ | ⟨rfl, rfl, rfl⟩ | ⟨rfl, rfl, rfl⟩
      · obtain ⟨rfl, -⟩ := ArgumentPath.written_word_iff.1 hpath
        exact ⟨_, rfl, .name joined source text⟩
      · obtain ⟨rfl, hafter⟩ := ArgumentPath.written_word_iff.1 hpath
        exact ⟨_, rfl, .readOnly hafter⟩
      · obtain ⟨rfl, hafter⟩ := ArgumentPath.written_word_iff.1 hpath
        exact ⟨_, rfl, .skip hafter⟩
    · rintro ⟨pre, rfl, h⟩
      cases h with
      | name joined source text =>
        exact ⟨_, [.word "name"], _, rfl, ArgumentPath.written_word_iff.2 ⟨rfl, not_goesOn_sign (by decide) _ _⟩, rfl⟩
      | readOnly h => exact ⟨_, _, _, rfl, ArgumentPath.written_word_iff.2 ⟨rfl, h⟩, rfl⟩
      | skip h => exact ⟨_, _, _, rfl, ArgumentPath.written_word_iff.2 ⟨rfl, h⟩, rfl⟩

end FieldArgument

/-! ## Arguments of structs -/

/-- Names with commas between them, and perhaps one behind the last, up to the bracket that closes them. -/
inductive NamesWritten : List String → List Token → Prop
  | nil (bracket : Bracket) : NamesWritten [] [.closing bracket]
  | last {name : String} (hname : name ∉ keywords) (bracket : Bracket) :
    NamesWritten [name] [.word name, .closing bracket]
  | cons {name : String} {names : List String} {ts : List Token} (hname : name ∉ keywords) (joined : Bool)
      (h : NamesWritten names ts) : NamesWritten (name :: names) (.word name :: .sign ',' joined :: ts)

theorem readNames_eq_ok_iff {ts after : List Token} {names : List String} : readNames ts = .ok (names, after) ↔
    ∃ pre, ts = pre ++ after ∧ NamesWritten names pre := by
  constructor
  · intro h
    induction ts using readNames.induct generalizing names with
    | case1 bracket rest =>
      cases h
      exact ⟨[.closing bracket], rfl, .nil bracket⟩
    | case2 name joined rest hname =>
      rw [readNames, if_pos hname] at h
      cases h
    | case3 name joined rest hname ih =>
      rw [readNames, if_neg hname] at h
      obtain ⟨⟨more, rest'⟩, hmore, hcons⟩ := Result.bind_eq_ok_iff.1 h
      cases hcons
      obtain ⟨pre, rfl, hpre⟩ := ih hmore
      exact ⟨_, rfl, .cons (by simpa using hname) joined hpre⟩
    | case4 name bracket rest hname =>
      rw [readNames, if_pos hname] at h
      cases h
    | case5 name bracket rest hname =>
      rw [readNames, if_neg hname] at h
      cases h
      exact ⟨[.word name, .closing bracket], rfl, .last (by simpa using hname) bracket⟩
    | case6 name rest hcomma hclosing =>
      rw [readNames] at h
      · cases h
      · exact hcomma
      · exact hclosing
    | case7 rest hclosing hcomma hlast hword =>
      rw [readNames] at h
      · cases h
      all_goals assumption
  · rintro ⟨pre, rfl, h⟩
    induction h with
    | nil bracket => rfl
    | last hname bracket =>
      show (if _ then _ else _) = _
      rw [if_neg (by simpa using hname)]
      rfl
    | cons hname joined h ih =>
      simp only [List.cons_append, readNames]
      rw [if_neg (by simpa using hname), ih]
      rfl

namespace StructArgument

/-- An argument of a struct, with what stands behind it: a name, or a constructor with the names in its brackets. -/
inductive Written : StructArgument → List Token → List Token → Prop
  | name (joined : Bool) (source text : String) {after : List Token} :
    Written (.name text) [.word "name", .sign '=' joined, .literal source (.text text)] after
  | constructor {names : List String} {ts after : List Token} (h : NamesWritten names ts) :
    Written (.constructor names) (.word "constructor" :: .opening .round :: ts) after

variable {b : StructArgument} {path : ArgumentPath} {ts after : List Token}

theorem read_eq_ok_iff : read path ts = .ok (b, after) ↔
    (path = ⟨false, ["name"]⟩ ∧ ∃ joined source text,
      ts = .sign '=' joined :: .literal source (.text text) :: after ∧ b = .name text) ∨
    (path = ⟨false, ["constructor"]⟩ ∧ ∃ names pre,
      ts = .opening .round :: pre ++ after ∧ NamesWritten names pre ∧ b = .constructor names) := by
  constructor
  · intro h
    unfold read at h
    split at h
    · rename_i hpath
      exact .inl ⟨ArgumentPath.isWord_iff.1 hpath, readText_bind_eq_ok_iff.1 h⟩
    · split at h
      · rename_i hpath
        obtain ⟨⟨names, rest⟩, hnames, hb⟩ := Result.bind_eq_ok_iff.1 h
        cases hb
        unfold readNameList at hnames
        split at hnames
        · rename_i inner
          cases hread : readNames inner with
          | error f =>
            rw [hread] at hnames
            cases hnames
          | ok found =>
            rw [hread] at hnames
            cases hnames
            obtain ⟨pre, rfl, hpre⟩ := readNames_eq_ok_iff.1 hread
            exact .inr ⟨ArgumentPath.isWord_iff.1 hpath, names, pre, rfl, hpre, rfl⟩
        · cases hnames
      · cases h
  · rintro (⟨rfl, joined, source, text, rfl, rfl⟩ | ⟨rfl, names, pre, rfl, hpre, rfl⟩)
    · rfl
    · show (readNameList (.opening .round :: (pre ++ after)) >>= _) = _
      rw [readNameList, readNames_eq_ok_iff.2 ⟨pre, rfl, hpre⟩]
      rfl

/-- **The reader of structs accepts what is written in the two ways.** -/
theorem accepts : ArgumentList.Accepts read Written where
  ne_nil h := by cases h <;> exact List.cons_ne_nil _ _
  ok_iff {b ts after} := by
    rw [ArgumentList.readFirst_eq_ok_iff]
    constructor
    · rintro ⟨path, pre, rest, rfl, hpath, hread⟩
      rcases read_eq_ok_iff.1 hread with ⟨rfl, joined, source, text, rfl, rfl⟩ | ⟨rfl, names, inner, rfl, hinner, rfl⟩
      · obtain ⟨rfl, -⟩ := ArgumentPath.written_word_iff.1 hpath
        exact ⟨_, rfl, .name joined source text⟩
      · obtain ⟨rfl, -⟩ := ArgumentPath.written_word_iff.1 hpath
        exact ⟨_, rfl, .constructor hinner⟩
    · rintro ⟨pre, rfl, h⟩
      cases h with
      | name joined source text =>
        exact ⟨_, [.word "name"], _, rfl, ArgumentPath.written_word_iff.2 ⟨rfl, not_goesOn_sign (by decide) _ _⟩, rfl⟩
      | constructor hnames =>
        refine ⟨⟨false, ["constructor"]⟩, [.word "constructor"], _, rfl, ArgumentPath.written_word_iff.2 ⟨rfl, ?_⟩,
          read_eq_ok_iff.2 (.inr ⟨rfl, _, _, rfl, hnames, rfl⟩)⟩
        rintro ⟨joined, rest, h⟩
        cases h

end StructArgument

end RowBinding.Derive
