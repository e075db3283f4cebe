import EbnfLexer.Proofs.Scan.Cut

/-!
# Lines whose characters stand at other columns

The pieces into which a marked line is cut do not depend on where its characters
stand.  If the characters are moved to other columns, its lexemes are moved in the
same way and nothing else happens to them (`lexemes_map_column`).  Characters that
are not kept do no more than take up columns, so they may be left out of a marked
line altogether (`lexemes_filter_isKept`).

Both are shown by going down a marked line from delimiter to delimiter
(`Mark.cut_induction`).
-/

namespace EbnfLexer.Scan

open Counter

/-- A mark that is moved to another column. -/
def Mark.mapColumn (move : ℕ → ℕ) (mark : Mark) : Mark :=
  { mark with column := move mark.column }

/-- A lexeme that is moved to another column. -/
def Lexeme.mapColumn {ν : Type} (move : ν → ν) (lexeme : Lexeme ν) : Lexeme ν :=
  { lexeme with column := move lexeme.column }

@[elab_as_elim]
theorem Mark.cut_induction {motive : List Mark → Prop}
    (segment : ∀ line, (∀ mark ∈ line, mark.isDelimiter = false) → motive line)
    (cut : ∀ front mark rest, (∀ other ∈ front, other.isDelimiter = false) →
      mark.isDelimiter → motive rest → motive (front ++ mark :: rest))
    (line : List Mark) : motive line := by
  induction hlength : line.length using Nat.strong_induction_on generalizing line with
  | _ length ih =>
      cases hfind : line.find? Mark.isDelimiter with
      | none => exact segment line (by simpa using hfind)
      | some mark =>
          obtain ⟨hmark, front, rest, rfl, hfront⟩ := List.find?_eq_some_iff_append.mp hfind
          have hshorter : rest.length < length := by
            rw [← hlength, List.length_append, List.length_cons]
            omega
          exact cut front mark rest (by simpa using hfront) hmark
            (ih rest.length hshorter rest rfl)

/-! ## Moved characters -/

/-- A line that begins further to the right. -/
theorem marks_add (quote : Option Char) (lead column : ℕ) (characters : List Char) :
    marks quote (lead + column) characters =
      (marks quote column characters).map (Mark.mapColumn (lead + ·)) := by
  induction characters generalizing quote column with
  | nil => rfl
  | cons c rest ih =>
      rw [marks, marks, List.map_cons, Nat.add_assoc, ih]
      rfl

variable {ν : Type} [Counter ν] (move : ℕ → ℕ) (moved : ν → ν)

theorem segmentLexemes_map_column {line : List Mark}
    (h : ∀ mark ∈ line, moved (count mark.column) = count (move mark.column)) :
    (segmentLexemes (line.map (Mark.mapColumn move)) : List (Lexeme ν)) =
      (segmentLexemes line).map (Lexeme.mapColumn moved) := by
  have hkept : (line.map (Mark.mapColumn move)).filter Mark.isKept =
      (line.filter Mark.isKept).map (Mark.mapColumn move) := List.filter_map
  have hmem : ∀ mark ∈ line.filter Mark.isKept, mark ∈ line := fun _ => List.mem_of_mem_filter
  rw [segmentLexemes, segmentLexemes, hkept]
  cases hfilter : line.filter Mark.isKept with
  | nil => rfl
  | cons first rest =>
      have hfirst := h first (hmem first (by rw [hfilter]; exact List.mem_cons_self ..))
      have hchars : ((first :: rest).map (Mark.mapColumn move)).map Mark.char =
          (first :: rest).map Mark.char := by
        rw [List.map_map]
        rfl
      rw [List.map_cons] at hchars ⊢
      rw [keptLexemes, keptLexemes, hchars, List.map_singleton, Lexeme.mapColumn, hfirst]
      rfl

/-- Lexemes move with the characters of their line. -/
theorem lexemes_map_column {line : List Mark}
    (h : ∀ mark ∈ line, moved (count mark.column) = count (move mark.column)) :
    (lexemes (line.map (Mark.mapColumn move)) : List (Lexeme ν)) =
      (lexemes line).map (Lexeme.mapColumn moved) := by
  have htext : ∀ {segment : List Mark}, (∀ mark ∈ segment, mark.isDelimiter = false) →
      ∀ mark ∈ segment.map (Mark.mapColumn move), mark.isDelimiter = false := by
    intro segment hsegment
    exact List.forall_mem_map.mpr hsegment
  induction line using Mark.cut_induction with
  | segment line hline =>
      rw [lexemes_segment hline, lexemes_segment (htext hline)]
      exact segmentLexemes_map_column move moved h
  | cut front mark rest hfront hmark ih =>
      have hmoved : (mark.mapColumn move).isDelimiter := hmark
      have hsign : (mark.mapColumn move).sign = (mark.sign : Lexeme ν).mapColumn moved := by
        rw [Lexeme.mapColumn, Mark.sign, Mark.sign, h mark (by simp)]
        rfl
      have hrest := ih fun other hother => h other (by simp [hother])
      have hsegment : (segmentLexemes (front.map (Mark.mapColumn move)) : List (Lexeme ν)) =
          (segmentLexemes front).map (Lexeme.mapColumn moved) :=
        segmentLexemes_map_column move moved fun other hother => h other (by simp [hother])
      rw [List.map_append, List.map_cons, lexemes_segment_append (htext hfront) hmoved,
        lexemes_segment_append hfront hmark, List.map_append, List.map_cons, hsegment, hsign, hrest]

/-! ## Characters that are not kept -/

/-- What is not kept may be left out of a line. -/
theorem lexemes_filter_isKept (line : List Mark) :
    (lexemes (line.filter Mark.isKept) : List (Lexeme ν)) = lexemes line := by
  have htext : ∀ {segment : List Mark}, (∀ mark ∈ segment, mark.isDelimiter = false) →
      ∀ mark ∈ segment.filter Mark.isKept, mark.isDelimiter = false := by
    intro segment hsegment mark hmark
    exact hsegment mark (List.mem_of_mem_filter hmark)
  have hsame : ∀ segment : List Mark,
      (segmentLexemes (segment.filter Mark.isKept) : List (Lexeme ν)) = segmentLexemes segment := by
    intro segment
    rw [segmentLexemes, List.filter_filter, segmentLexemes]
    simp only [Bool.and_self]
  induction line using Mark.cut_induction with
  | segment line hline => rw [lexemes_segment hline, lexemes_segment (htext hline), hsame]
  | cut front mark rest hfront hmark ih =>
      rw [List.filter_append, List.filter_cons_of_pos (Mark.isKept_of_isDelimiter hmark),
        lexemes_segment_append (htext hfront) hmark, lexemes_segment_append hfront hmark, hsame, ih]

end EbnfLexer.Scan
