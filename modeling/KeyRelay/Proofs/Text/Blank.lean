import Mathlib.Data.List.DropRight
import KeyRelay.Text.Blank

/-!
What trimming leaves of a text: all but the blanks at its ends, and nothing only of a text that is
blank throughout.
-/

namespace KeyRelay.Blank

theorem trimChars_eq_nil {cs : List Char} : trimChars cs = [] ↔ ∀ c ∈ cs, isBlank c = true := by
  have kept : trimChars cs = (cs.dropWhile isBlank).rdropWhile isBlank := rfl
  rw [kept, List.rdropWhile_eq_nil_iff]
  constructor
  · intro h
    have front : cs.dropWhile isBlank = [] := by
      by_contra more
      exact List.dropWhile_get_zero_not isBlank cs (List.length_pos_iff.2 more)
        (h _ (List.get_mem ..))
    exact List.dropWhile_eq_nil_iff.1 front
  · intro h
    rw [List.dropWhile_eq_nil_iff.2 h]
    simp

theorem trim_eq_empty {s : String} : trim s = "" ↔ isBlankText s = true := by
  rw [trim, isBlankText, List.all_eq_true, ← trimChars_eq_nil]
  exact String.ofList_eq_empty_iff

/-- No blank stands at either end of a text. -/
structure Stripped (s : String) : Prop where
  front : ∀ c ∈ s.toList.head?, isBlank c = false
  back : ∀ c ∈ s.toList.getLast?, isBlank c = false

theorem trim_stripped (s : String) : Stripped (trim s) := by
  have kept : (trim s).toList = (s.toList.dropWhile isBlank).rdropWhile isBlank :=
    String.toList_ofList
  constructor
  · intro c first
    obtain ⟨rest, eq⟩ := List.head?_eq_some_iff.1 first
    obtain ⟨after, whole⟩ := List.rdropWhile_prefix isBlank (s.toList.dropWhile isBlank)
    rw [← kept, eq, List.cons_append] at whole
    have start := List.head?_dropWhile_not isBlank s.toList
    rw [← whole] at start
    exact start
  · intro c last
    rw [kept] at last
    obtain ⟨front, eq⟩ := List.getLast?_eq_some_iff.1 last
    have solid := List.rdropWhile_last_not isBlank (s.toList.dropWhile isBlank) (by simp [eq])
    simpa only [eq, List.getLast_concat, Bool.not_eq_true] using solid

/-- What has no blank at its ends is found again among blanks. -/
theorem trimChars_append {front cs back : List Char} (before : ∀ c ∈ front, isBlank c = true)
    (after : ∀ c ∈ back, isBlank c = true) (text : ∀ c ∈ cs, isBlank c = false) :
    trimChars (front ++ cs ++ back) = cs := by
  cases cs with
  | nil =>
    rw [List.append_nil, trimChars_eq_nil]
    exact List.forall_mem_append.2 ⟨before, after⟩
  | cons c cs =>
    have start : (front ++ (c :: cs) ++ back).dropWhile isBlank = (c :: cs) ++ back := by
      rw [List.append_assoc, List.dropWhile_append_of_pos before, List.cons_append,
        List.dropWhile_cons_of_neg (by simp [text c])]
    have finish : (back.reverse ++ (c :: cs).reverse).dropWhile isBlank = (c :: cs).reverse := by
      rw [List.dropWhile_append_of_pos fun x h => after x (List.mem_reverse.1 h)]
      obtain ⟨last, rest, eq⟩ := List.exists_cons_of_ne_nil (l := (c :: cs).reverse) (by simp)
      have member : last ∈ c :: cs := List.mem_reverse.1 (eq ▸ List.mem_cons_self)
      rw [eq, List.dropWhile_cons_of_neg (by simp [text last member])]
    rw [trimChars, start, List.reverse_append, finish, List.reverse_reverse]

/-- A text without blanks is found again among blanks. -/
theorem trim_append {front text back : String} (before : isBlankText front = true)
    (after : isBlankText back = true) (solid : ∀ c ∈ text.toList, isBlank c = false) :
    trim (front ++ text ++ back) = text := by
  rw [isBlankText, List.all_eq_true] at before after
  rw [trim, String.toList_append, String.toList_append, trimChars_append before after solid,
    String.ofList_toList]

end KeyRelay.Blank
