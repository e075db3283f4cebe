import EbnfLexer.Text.Blank
import Mathlib.Data.List.DropRight

/-!
# Trimmed text

Trimming takes characters away and adds none (`mem_of_mem_trim`).  What it
leaves has no white space at its end (`not_isBlank_of_mem_getLast?_trim`), and
trimming once is enough (`trim_trim`).  Only white space is taken away
(`withoutBlank_trim`), and white space that comes behind a text is not to be seen
afterwards (`trim_append_blank`).
-/

namespace EbnfLexer.Text

theorem trimEnd_eq_rdropWhile (cs : List Char) : trimEnd cs = cs.rdropWhile isBlank := rfl

@[simp] theorem trim_nil : trim [] = [] := rfl

theorem mem_of_mem_trim {cs : List Char} {c : Char} (h : c ∈ trim cs) : c ∈ cs := by
  rw [trim, trimEnd_eq_rdropWhile] at h
  exact (List.dropWhile_sublist _).subset ((List.rdropWhile_prefix _ _).subset h)

/-- The last character left is no white space. -/
theorem not_isBlank_of_mem_getLast?_trim {cs : List Char} {c : Char}
    (h : c ∈ (trim cs).getLast?) : isBlank c = false := by
  obtain ⟨hne, rfl⟩ := List.mem_getLast?_eq_getLast h
  have hlast : ¬ isBlank ((trim cs).getLast hne) := List.rdropWhile_last_not _ _ hne
  simpa using hlast

/-- Nothing is left to be removed at the beginning. -/
private theorem dropWhile_trim (cs : List Char) : (trim cs).dropWhile isBlank = trim cs := by
  rw [trim, trimEnd_eq_rdropWhile]
  cases hfront : cs.dropWhile isBlank with
  | nil => rfl
  | cons first rest =>
      have hfirst : ¬ isBlank first := by
        simpa [hfront] using List.head_dropWhile_not isBlank (l := cs) (by simp [hfront])
      cases hback : (first :: rest).rdropWhile isBlank with
      | nil => rfl
      | cons other left =>
          -- What is removed at the end leaves the first character, unless nothing is left.
          have hsame : other = first := by
            have hprefix := List.rdropWhile_prefix isBlank (first :: rest)
            rw [hback] at hprefix
            exact (List.cons_prefix_cons.mp hprefix).1
          rw [List.dropWhile_cons_of_neg (hsame ▸ hfirst)]

/-- Trimmed text stays as it is. -/
theorem trim_trim (cs : List Char) : trim (trim cs) = trim cs := by
  conv => lhs; rw [trim, dropWhile_trim]
  exact List.rdropWhile_idempotent _ _

/-- White space behind a text goes with the white space at its end. -/
theorem trim_append_blank {cs blanks : List Char} (h : ∀ c ∈ blanks, isBlank c) :
    trim (cs ++ blanks) = trim cs := by
  have hfront : (cs ++ blanks).dropWhile isBlank =
      if (cs.dropWhile isBlank).isEmpty then [] else cs.dropWhile isBlank ++ blanks := by
    rw [List.dropWhile_append, List.dropWhile_eq_nil_iff.mpr h]
  have hback : ∀ front : List Char, trimEnd (front ++ blanks) = trimEnd front := by
    intro front
    have hreverse : ∀ c ∈ blanks.reverse, isBlank c := by simpa using h
    rw [trimEnd, trimEnd, List.reverse_append, List.dropWhile_append_of_pos hreverse]
  rw [trim, trim, hfront]
  cases cs.dropWhile isBlank with
  | nil => rfl
  | cons first rest => exact hback (first :: rest)

/-- The characters other than white space. -/
def withoutBlank (cs : List Char) : List Char := cs.filter fun c => !isBlank c

theorem withoutBlank_append (cs others : List Char) :
    withoutBlank (cs ++ others) = withoutBlank cs ++ withoutBlank others :=
  List.filter_append ..

theorem withoutBlank_dropWhile (cs : List Char) :
    withoutBlank (cs.dropWhile isBlank) = withoutBlank cs := by
  induction cs with
  | nil => rfl
  | cons c rest ih =>
      by_cases hc : isBlank c
      · rw [List.dropWhile_cons_of_pos hc, ih, withoutBlank, withoutBlank,
          List.filter_cons_of_neg (by simp [hc])]
      · rw [List.dropWhile_cons_of_neg hc]

theorem withoutBlank_trim (cs : List Char) : withoutBlank (trim cs) = withoutBlank cs := by
  have hback : ∀ front : List Char, withoutBlank (trimEnd front) = withoutBlank front := by
    intro front
    -- The end is trimmed as the beginning of the reversed text.
    have hreverse := withoutBlank_dropWhile front.reverse
    unfold withoutBlank at hreverse ⊢
    rw [trimEnd, List.filter_reverse, hreverse, List.filter_reverse, List.reverse_reverse]
  rw [trim, hback, withoutBlank_dropWhile]

end EbnfLexer.Text
