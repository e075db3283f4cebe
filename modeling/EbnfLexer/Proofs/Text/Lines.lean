import EbnfLexer.Text.Lines
import Mathlib.Data.List.Basic

/-!
# Where the lines of a text end

A line feed is never part of a line (`not_mem_lines`).  It ends the line that was
begun, and the characters of a line that was begun are those behind the last line
feed (`linesFrom_append_feed`).

A carriage return in front of a line feed goes with it, so lines that are ended by
both are the lines that are ended by line feeds alone (`lines_endedBy_return`,
`lines_withReturns`).  One line feed more at the end of a text ends a line that was
begun, or else it is an empty line of its own (`lines_append_feed`).
-/

namespace EbnfLexer.Text

theorem mem_of_mem_dropReturn {line : List Char} {c : Char} (h : c ∈ dropReturn line) :
    c ∈ line := by
  unfold dropReturn at h
  split at h
  · exact List.dropLast_subset _ h
  · exact h

theorem not_mem_linesFrom {begun text line : List Char} (hbegun : '\n' ∉ begun)
    (h : line ∈ linesFrom begun text) : '\n' ∉ line := by
  induction text generalizing begun with
  | nil =>
      rw [linesFrom] at h
      split at h
      · contradiction
      · rw [List.mem_singleton.mp h, List.mem_reverse]
        exact hbegun
  | cons c rest ih =>
      rw [linesFrom] at h
      split at h
      · rcases List.mem_cons.mp h with rfl | hrest
        · intro hmem
          exact hbegun (List.mem_reverse.mp (mem_of_mem_dropReturn hmem))
        · exact ih List.not_mem_nil hrest
      · next hc =>
        refine ih ?_ h
        intro hmem
        rcases List.mem_cons.mp hmem with hfeed | hmem
        · exact hc hfeed.symm
        · exact hbegun hmem

theorem not_mem_lines {text line : String} (h : line ∈ lines text) : '\n' ∉ line.toList := by
  obtain ⟨characters, hcharacters, rfl⟩ := List.mem_map.mp h
  rw [String.toList_ofList]
  exact not_mem_linesFrom List.not_mem_nil hcharacters

/-! ## Carriage returns -/

theorem dropReturn_concat_return (line : List Char) : dropReturn (line ++ ['\r']) = line := by
  rw [dropReturn, if_pos List.getLast?_concat, List.dropLast_concat]

theorem dropReturn_of_getLast?_ne {line : List Char} (h : line.getLast? ≠ some '\r') :
    dropReturn line = line := if_neg h

/-- Characters other than line feeds go on the line that was begun. -/
theorem linesFrom_append {characters : List Char} (h : '\n' ∉ characters) (begun rest : List Char) :
    linesFrom begun (characters ++ rest) = linesFrom (characters.reverse ++ begun) rest := by
  induction characters generalizing begun with
  | nil => rfl
  | cons c characters ih =>
      have hc : c ≠ '\n' := (List.ne_of_not_mem_cons h).symm
      rw [List.cons_append, linesFrom, if_neg hc, ih (List.not_mem_of_not_mem_cons h),
        List.reverse_cons, List.append_assoc, List.singleton_append]

/-- A line feed ends the line that was begun. -/
theorem linesFrom_feed (begun rest : List Char) :
    linesFrom begun ('\n' :: rest) = dropReturn begun.reverse :: linesFrom [] rest := by
  rw [linesFrom, if_pos rfl]

/-- The first line, up to the first line feed. -/
theorem linesFrom_append_feed {line : List Char} (h : '\n' ∉ line) (rest : List Char) :
    linesFrom [] (line ++ '\n' :: rest) = dropReturn line :: linesFrom [] rest := by
  rw [linesFrom_append h, linesFrom_feed, List.append_nil, List.reverse_reverse]

/-! ## Lines that are all ended in the same way -/

/-- Lines with an end behind each of them. -/
def endedBy (ending : String) (lines : List String) : String :=
  String.join (lines.map fun line => line ++ ending)

theorem toList_endedBy_cons (ending line : String) (others : List String) :
    (endedBy ending (line :: others)).toList =
      line.toList ++ (ending.toList ++ (endedBy ending others).toList) := by
  simp [endedBy, String.toList_join]

theorem lines_endedBy_feed {texts : List String} (hfeed : ∀ text ∈ texts, '\n' ∉ text.toList)
    (hreturn : ∀ text ∈ texts, text.toList.getLast? ≠ some '\r') :
    lines (endedBy "\n" texts) = texts := by
  induction texts with
  | nil => rfl
  | cons text texts ih =>
      obtain ⟨hfirst, hothers⟩ := List.forall_mem_cons.mp hfeed
      obtain ⟨hplain, hrest⟩ := List.forall_mem_cons.mp hreturn
      have hlines : linesFrom [] (endedBy "\n" (text :: texts)).toList =
          text.toList :: linesFrom [] (endedBy "\n" texts).toList := by
        rw [toList_endedBy_cons]
        exact (linesFrom_append_feed hfirst _).trans
          (congrArg (· :: _) (dropReturn_of_getLast?_ne hplain))
      rw [lines, hlines, List.map_cons, String.ofList_toList]
      exact congrArg (text :: ·) (ih hothers hrest)

theorem lines_endedBy_return {texts : List String} (hfeed : ∀ text ∈ texts, '\n' ∉ text.toList) :
    lines (endedBy "\r\n" texts) = texts := by
  induction texts with
  | nil => rfl
  | cons text texts ih =>
      obtain ⟨hfirst, hothers⟩ := List.forall_mem_cons.mp hfeed
      have hline : '\n' ∉ text.toList ++ ['\r'] := by simpa using hfirst
      have hlines : linesFrom [] (endedBy "\r\n" (text :: texts)).toList =
          text.toList :: linesFrom [] (endedBy "\r\n" texts).toList := by
        have hshape : (endedBy "\r\n" (text :: texts)).toList =
            text.toList ++ ['\r'] ++ '\n' :: (endedBy "\r\n" texts).toList := by
          rw [toList_endedBy_cons, List.append_assoc]
          rfl
        rw [hshape, linesFrom_append_feed hline, dropReturn_concat_return]
      rw [lines, hlines, List.map_cons, String.ofList_toList]
      exact congrArg (text :: ·) (ih hothers)

/-! ## One text with other line ends -/

/-- A text with a carriage return put before each line feed. -/
def withReturns (text : String) : String :=
  String.ofList (text.toList.flatMap fun c => if c = '\n' then ['\r', '\n'] else [c])

theorem linesFrom_withReturns {begun text : List Char} (hbegun : '\r' ∉ begun)
    (htext : '\r' ∉ text) :
    linesFrom begun (text.flatMap fun c => if c = '\n' then ['\r', '\n'] else [c]) =
      linesFrom begun text := by
  induction text generalizing begun with
  | nil => rfl
  | cons c rest ih =>
      have hrest : '\r' ∉ rest := List.not_mem_of_not_mem_cons htext
      rw [List.flatMap_cons]
      by_cases hfeed : c = '\n'
      · have hplain : begun.reverse.getLast? ≠ some '\r' := by
          intro hlast
          exact hbegun (List.mem_reverse.mp (List.mem_of_getLast? hlast))
        have hreturn : linesFrom begun ('\r' :: '\n' :: rest.flatMap fun c =>
              if c = '\n' then ['\r', '\n'] else [c]) =
            begun.reverse :: linesFrom [] rest := by
          rw [linesFrom, if_neg (by decide), linesFrom_feed, List.reverse_cons,
            dropReturn_concat_return, ih List.not_mem_nil hrest]
        rw [if_pos hfeed, hfeed, linesFrom_feed, dropReturn_of_getLast?_ne hplain]
        exact hreturn
      · rw [if_neg hfeed, List.singleton_append, linesFrom, if_neg hfeed, linesFrom, if_neg hfeed]
        exact ih (List.not_mem_cons_of_ne_of_not_mem (List.ne_of_not_mem_cons htext) hbegun) hrest

theorem lines_withReturns {text : String} (h : '\r' ∉ text.toList) :
    lines (withReturns text) = lines text := by
  rw [lines, withReturns, String.toList_ofList, linesFrom_withReturns List.not_mem_nil h, lines]

theorem linesFrom_concat_feed {begun text : List Char}
    (h : (begun.reverse ++ text).getLast? ≠ some '\r') :
    linesFrom begun (text ++ ['\n']) = linesFrom begun text ∨
      linesFrom begun (text ++ ['\n']) = linesFrom begun text ++ [[]] := by
  induction text generalizing begun with
  | nil =>
      rw [List.append_nil] at h
      rw [List.nil_append, linesFrom_feed, dropReturn_of_getLast?_ne h]
      cases begun with
      | nil => exact Or.inr rfl
      | cons c begun => exact Or.inl rfl
  | cons c rest ih =>
      rw [List.cons_append, linesFrom, linesFrom]
      by_cases hfeed : c = '\n'
      · rw [if_pos hfeed, if_pos hfeed]
        have hrest : (([] : List Char).reverse ++ rest).getLast? ≠ some '\r' := by
          cases rest with
          | nil => simp
          | cons other rest =>
              rw [List.getLast?_append_of_ne_nil _ (List.cons_ne_nil _ _),
                List.getLast?_cons_cons] at h
              exact h
        exact (ih hrest).imp (congrArg (_ :: ·)) (congrArg (_ :: ·))
      · rw [if_neg hfeed, if_neg hfeed]
        refine ih ?_
        rw [List.reverse_cons, List.append_assoc, List.singleton_append]
        exact h

/-- A line feed at the end of a text ends its last line, or it is an empty line. -/
theorem lines_append_feed {text : String} (h : text.toList.getLast? ≠ some '\r') :
    lines (text ++ "\n") = lines text ∨ lines (text ++ "\n") = lines text ++ [""] := by
  have hshape : (text ++ "\n").toList = text.toList ++ ['\n'] := String.toList_append
  have hbegun : (([] : List Char).reverse ++ text.toList).getLast? ≠ some '\r' := h
  rw [lines, lines, hshape]
  rcases linesFrom_concat_feed hbegun with hsame | hmore
  · rw [hsame]
    exact Or.inl rfl
  · rw [hmore, List.map_append]
    exact Or.inr rfl

end EbnfLexer.Text
