import Mathlib.Data.List.Basic
import RowBinding.Proofs.AlikeResults
/-!
# Items and the separators between them

Items that append nothing are to leave no trace: what the others append is to be joined by separators, and by nothing
else.  **So it is, except that a separator stays behind at the end when the last items append nothing and an earlier one
has appended something** (`Text.appendSeparated_texts`).  It is written when the next item is due, before that item has
appended anything.
-/
namespace RowBinding

namespace Text

variable {α : Type} {append : String → α → String} {separator out text : String} {item : α} {items : List α}
  {texts texts' : List String}

/-- Whatever the text is so far, an item is added to its end. -/
def OnlyAppends (append : String → α → String) : Prop := ∀ out item, ∃ text, append out item = out ++ text

/-- The texts that are not empty. -/
def kept (texts : List String) : List String := texts.filter (· ≠ "")

/-- The texts that the items append, one after the other.  Before an item stand `out` and the texts of the items before
it, those that are not empty, with a separator behind each. -/
inductive Appends (append : String → α → String) (separator : String) : String → List α → List String → Prop
  | nil {out : String} : Appends append separator out [] []
  | cons {out text : String} {item : α} {items : List α} {texts : List String} (h : append out item = out ++ text)
      (hrest : Appends append separator (if text = "" then out else out ++ text ++ separator) items texts) :
      Appends append separator out (item :: items) (text :: texts)

theorem Appends.unique (h : Appends append separator out items texts) (h' : Appends append separator out items texts') :
    texts = texts' := by
  induction h generalizing texts' with
  | nil =>
    cases h'
    rfl
  | cons h _ ih =>
    cases h' with
    | cons h' hrest' =>
      obtain rfl := (String.append_right_inj _).1 (h.symm.trans h')
      rw [ih hrest']

theorem OnlyAppends.exists_appends (h : OnlyAppends append) (separator out : String) (items : List α) :
    ∃ texts, Appends append separator out items texts := by
  induction items generalizing out with
  | nil => exact ⟨[], .nil⟩
  | cons item items ih =>
    obtain ⟨text, htext⟩ := h out item
    obtain ⟨texts, htexts⟩ := ih (if text = "" then out else out ++ text ++ separator)
    exact ⟨text :: texts, .cons htext htexts⟩

/-- Items that append the same text wherever they stand. -/
theorem appends_of_render {render : α → String} (h : ∀ out item, append out item = out ++ render item)
    (separator out : String) (items : List α) : Appends append separator out items (items.map render) := by
  induction items generalizing out with
  | nil => exact .nil
  | cons item items ih => exact .cons (h out item) (ih _)

/-! ## What is kept -/

theorem kept_cons_empty (texts : List String) : kept ("" :: texts) = kept texts := List.filter_cons_of_neg (by simp)

theorem kept_cons_of_ne (h : text ≠ "") (texts : List String) : kept (text :: texts) = text :: kept texts :=
  List.filter_cons_of_pos (by simpa using h)

theorem kept_eq_nil_iff : kept texts = [] ↔ ∀ text ∈ texts, text = "" := by
  simp only [kept, List.filter_eq_nil_iff, decide_eq_true_eq, not_not]

/-- The separator that stays behind: something has been appended, but not by the last item. -/
def leftOver (separator : String) (texts : List String) : String :=
  if kept texts ≠ [] ∧ texts.getLast? = some "" then separator else ""

theorem leftOver_cons_empty (separator text : String) (texts : List String) :
    leftOver separator ("" :: text :: texts) = leftOver separator (text :: texts) := by
  rw [leftOver, leftOver, kept_cons_empty, List.getLast?_cons_cons]

/-- Behind a text that is not empty, what follows is joined to it, or the separator stays behind. -/
theorem joined_cons_leftOver (h : text ≠ "") (next : String) (texts : List String) :
    joined separator (kept (text :: next :: texts)) ++ leftOver separator (text :: next :: texts) =
      text ++ separator ++ (joined separator (kept (next :: texts)) ++ leftOver separator (next :: texts)) := by
  rw [leftOver, leftOver, kept_cons_of_ne h, List.getLast?_cons_cons]
  by_cases hkept : kept (next :: texts) = []
  · obtain ⟨last, hlast⟩ := Option.isSome_iff_exists.1 (List.getLast?_isSome.2 (List.cons_ne_nil next texts))
    have hempty : last = "" := kept_eq_nil_iff.1 hkept last (List.mem_of_getLast? hlast)
    rw [hkept, hlast, hempty, if_pos ⟨List.cons_ne_nil _ _, rfl⟩, if_neg fun hnil => hnil.1 rfl]
    simp [joined]
  · rw [joined, joined, String.intercalate_cons_of_ne_nil hkept, String.append_assoc]
    by_cases hlast : (next :: texts).getLast? = some ""
    · rw [if_pos ⟨List.cons_ne_nil _ _, hlast⟩, if_pos ⟨hkept, hlast⟩]
    · rw [if_neg fun hand => hlast hand.2, if_neg fun hand => hlast hand.2]

/-! ## The loop -/

/-- The separator is due exactly if the text has grown. -/
theorem opened_eq (out text separator : String) :
    (if (out ++ text).utf8ByteSize > out.utf8ByteSize then out ++ text ++ separator else out ++ text) =
      if text = "" then out else out ++ text ++ separator := by
  rw [String.utf8ByteSize_append]
  by_cases h : text = ""
  · subst h
    rw [if_pos rfl, if_neg (by simp), String.append_empty]
  · have hsize : text.utf8ByteSize ≠ 0 := fun hzero => h (String.utf8ByteSize_eq_zero_iff.1 hzero)
    rw [if_neg h, if_pos (by omega)]

/-- **What has been appended when a text stands behind `out` and the next items are still to come.** -/
theorem appendSeparatedFrom_eq
    (h : Appends append separator (if text = "" then out else out ++ text ++ separator) items texts) :
    appendSeparatedFrom append separator out.utf8ByteSize (out ++ text) items =
      out ++ (joined separator (kept (text :: texts)) ++ leftOver separator (text :: texts)) := by
  induction items generalizing out text texts with
  | nil =>
    cases h
    rw [appendSeparatedFrom]
    by_cases htext : text = ""
    · subst htext
      rfl
    · rw [leftOver, kept_cons_of_ne htext, List.getLast?_singleton, if_neg fun hand => htext (Option.some.inj hand.2)]
      simp [joined, kept]
  | cons item items ih =>
    cases h with
    | @cons _ next _ _ texts hitem hrest =>
      rw [appendSeparatedFrom, opened_eq, hitem, ih hrest]
      by_cases htext : text = ""
      · subst htext
        rw [if_pos rfl, kept_cons_empty, leftOver_cons_empty]
      · rw [if_neg htext, joined_cons_leftOver htext, String.append_assoc, String.append_assoc, String.append_assoc]

/-- **The result is the initial text, what the items append, joined, and the separator that stays behind.** -/
theorem appendSeparated_eq (h : Appends append separator out items texts) :
    appendSeparated append separator out items = out ++ joined separator (kept texts) ++ leftOver separator texts := by
  have hstart : Appends append separator (if "" = "" then out else out ++ "" ++ separator) items texts := by
    rwa [if_pos rfl]
  have hfrom := appendSeparatedFrom_eq hstart
  rw [String.append_empty] at hfrom
  rw [appendSeparated, hfrom, kept_cons_empty, String.append_assoc]
  cases texts with
  | nil => rfl
  | cons text texts => rw [leftOver_cons_empty]

theorem leftOver_eq_empty_iff :
    leftOver separator texts = "" ↔ separator = "" ∨ kept texts = [] ∨ texts.getLast? ≠ some "" := by
  rw [leftOver]
  split
  · rename_i h
    simp [h.1, h.2]
  · rename_i h
    refine iff_of_true rfl (.inr ?_)
    by_cases hkept : kept texts = []
    · exact .inl hkept
    · exact .inr fun hlast => h ⟨hkept, hlast⟩

/-- **Items with separators between them.**  Each item appends one text, which may depend on where it stands.  The result
is the initial text and the texts that are not empty, in order, with the separator between any two of them; and behind the
last one a further separator, if the last item has appended nothing.  So the texts are joined and nothing else is there,
exactly if the separator is empty, or nothing has been appended, or the last item has appended something. -/
theorem appendSeparated_texts (h : OnlyAppends append) (separator out : String) (items : List α) :
    ∃ texts, (∀ texts', Appends append separator out items texts' ↔ texts' = texts) ∧
      (∀ render, (∀ out item, append out item = out ++ render item) → texts = items.map render) ∧
      appendSeparated append separator out items = out ++ joined separator (kept texts) ++
        (if kept texts ≠ [] ∧ texts.getLast? = some "" then separator else "") ∧
      (appendSeparated append separator out items = out ++ joined separator (kept texts) ↔
        separator = "" ∨ kept texts = [] ∨ texts.getLast? ≠ some "") := by
  obtain ⟨texts, htexts⟩ := h.exists_appends separator out items
  refine ⟨texts, fun texts' => ⟨fun h' => h'.unique htexts, ?_⟩, fun render hrender => ?_, appendSeparated_eq htexts, ?_⟩
  · rintro rfl
    exact htexts
  · exact htexts.unique (appends_of_render hrender separator out items)
  · rw [appendSeparated_eq htexts, ← leftOver_eq_empty_iff]
    constructor
    · intro heq
      exact (String.append_right_inj _).1 (heq.trans String.append_empty.symm)
    · intro hempty
      rw [hempty, String.append_empty]

/-- Empty texts at the beginning and in the middle leave no trace. -/
theorem appendSeparated_texts_gaps :
    OnlyAppends (fun out text : String => out ++ text) ∧
    appendSeparated (fun out text => out ++ text) "·" "é" ["", "日", "", "", "本"] =
      "é" ++ joined "·" (kept ["", "日", "", "", "本"]) := by
  have honly : OnlyAppends fun out text : String => out ++ text := fun _ text => ⟨text, rfl⟩
  obtain ⟨texts, -, hrender, -, hiff⟩ := appendSeparated_texts honly "·" "é" ["", "日", "", "", "本"]
  obtain rfl := hrender id fun _ _ => rfl
  exact ⟨honly, hiff.2 (.inr (.inr (by decide)))⟩

/-- In front of a last item that appends nothing a separator stands all the same. -/
theorem appendSeparated_lastEmpty :
    appendSeparated (fun out text => out ++ text) "," "" ["a", ""] = "a," ∧ "" ++ joined "," (kept ["a", ""]) = "a" := by
  decide

end Text

/-! ## Shapes -/

namespace Fingerprint

/-- A column of a shape: its label and its type. -/
def columnText (f : Field) : String := appendColumn "" f

theorem appendColumn_eq (out : String) (f : Field) : appendColumn out f = out ++ columnText f := by
  simp only [columnText, appendColumn, String.empty_append, String.append_assoc]

theorem columnText_ne_empty (f : Field) : columnText f ≠ "" := by
  intro hempty
  have hsize := size_lt_appendColumn "" f
  rw [show appendColumn "" f = "" from hempty] at hsize
  exact Nat.lt_irrefl _ hsize

/-- **A shape is its columns, joined by commas**: no column is empty, so no separator stays behind. -/
theorem shape_eq_joined (p : Fingerprint) :
    p.shape = "(" ++ Text.joined ", " (p.fields.map columnText) ++ ")" := by
  have happends := Text.appends_of_render appendColumn_eq ", " "(" p.fields
  have hne : ∀ text ∈ p.fields.map columnText, text ≠ "" := by
    intro text htext
    obtain ⟨f, -, rfl⟩ := List.mem_map.1 htext
    exact columnText_ne_empty f
  have hkept : Text.kept (p.fields.map columnText) = p.fields.map columnText :=
    List.filter_eq_self.2 fun text htext => by simpa using hne text htext
  have hleft : Text.leftOver ", " (p.fields.map columnText) = "" :=
    Text.leftOver_eq_empty_iff.2 (.inr (.inr fun hlast => hne "" (List.mem_of_getLast? hlast) rfl))
  show Text.appendSeparated appendColumn ", " "(" p.fields ++ ")" = _
  rw [Text.appendSeparated_eq happends, hkept, hleft, String.append_empty]

end Fingerprint

end RowBinding
