import EbnfLexer.Proofs.Run
import EbnfLexer.Proofs.Scan.Cut
import Mathlib.Data.List.Perm.Subperm
import Mathlib.Data.Prod.Lex

/-!
# Where the tokens of a text are

The columns of the lexemes of a line go up, and none lies outside the line: they
are `Rising` between the first column and the one behind the last
(`rising_columns`).  Gathered text has the column of a character that was kept of
it, which is why its column stays behind the delimiter before it and in front of
the one after it, however many characters lie in between.  Since rising columns
are different from each other, a line has no more lexemes than characters
(`Rising.length_le`).

Line by line this gives the places of the tokens of a text (`WellPlaced`).  It is
shown for natural numbers.  Any other counter shows the same tokens with their
numbers counted (`Token.counted`), and so the places are right for as long as the
counter shows numbers as they are (`WellPlaced.counted`).
-/

namespace EbnfLexer

open Counter Scan TwoPass

/-! ## Columns -/

/-- Columns that go up, from `low` on and below `high`. -/
structure Rising (low high : ℕ) (columns : List ℕ) : Prop where
  pairwise : columns.Pairwise (· < ·)
  bounds : ∀ column ∈ columns, low ≤ column ∧ column < high

namespace Rising

variable {low middle high : ℕ} {columns others : List ℕ}

theorem nil (low high : ℕ) : Rising low high [] := ⟨List.Pairwise.nil, by simp⟩

theorem singleton {column : ℕ} (hlow : low ≤ column) (hhigh : column < high) :
    Rising low high [column] := by
  refine ⟨List.pairwise_singleton _ _, ?_⟩
  intro other hother
  rw [List.mem_singleton.mp hother]
  exact ⟨hlow, hhigh⟩

theorem append (h : Rising low middle columns) (hothers : Rising middle high others)
    (hlow : low ≤ middle) (hhigh : middle ≤ high) : Rising low high (columns ++ others) := by
  refine ⟨List.pairwise_append.mpr ⟨h.pairwise, hothers.pairwise, ?_⟩, ?_⟩
  · intro column hcolumn other hother
    have := h.bounds column hcolumn
    have := hothers.bounds other hother
    omega
  · intro column hcolumn
    rcases List.mem_append.mp hcolumn with hcolumn | hcolumn
    · have := h.bounds column hcolumn
      omega
    · have := hothers.bounds column hcolumn
      omega

theorem length_le (h : Rising low high columns) : columns.length ≤ high - low := by
  have hsubset : columns ⊆ List.range' low (high - low) := by
    intro column hcolumn
    have := h.bounds column hcolumn
    exact List.mem_range'_1.mpr (by omega)
  have hnodup : columns.Nodup := h.pairwise.imp fun hlt => Nat.ne_of_lt hlt
  have := (List.subperm_of_subset hnodup hsubset).length_le
  rwa [List.length_range'] at this

end Rising

namespace Scan

theorem column_of_mem_marks {quote : Option Char} {column : ℕ} {characters : List Char}
    {mark : Mark} (h : mark ∈ marks quote column characters) :
    column ≤ mark.column ∧ mark.column < column + characters.length := by
  induction characters generalizing quote column with
  | nil => simp at h
  | cons c rest ih =>
      rw [List.length_cons]
      rcases List.mem_cons.mp h with rfl | hrest
      · exact ⟨le_refl _, by dsimp only; omega⟩
      · have := ih hrest
        omega

/-- The columns of a line that begins inside the literal of `quote`, at `column`. -/
def columns (quote : Option Char) (column : ℕ) (characters : List Char) : List ℕ :=
  (lexemes (marks quote column characters) : List (Lexeme ℕ)).map Lexeme.column

/-- The text of a segment has the column of one of its characters. -/
theorem rising_segment (quote : Option Char) (column : ℕ) (characters : List Char) :
    Rising column (column + characters.length)
      ((segmentLexemes (marks quote column characters) : List (Lexeme ℕ)).map Lexeme.column) := by
  rw [segmentLexemes]
  cases hkept : (marks quote column characters).filter Mark.isKept with
  | nil => exact Rising.nil _ _
  | cons first rest =>
      have hfirst : first ∈ marks quote column characters :=
        List.mem_of_mem_filter (hkept ▸ List.mem_cons_self ..)
      have hcolumn : (keptLexemes (first :: rest) : List (Lexeme ℕ)).map Lexeme.column =
          [first.column] := by
        simp [keptLexemes]
      rw [hcolumn]
      exact Rising.singleton (column_of_mem_marks hfirst).1 (column_of_mem_marks hfirst).2

theorem rising_columns (quote : Option Char) (column : ℕ) (characters : List Char) :
    Rising column (column + characters.length) (columns quote column characters) := by
  induction quote, characters using Literal.cut_induction generalizing column with
  | segment quote characters h =>
      rw [columns, lexemes_marks_segment h]
      exact rising_segment quote column characters
  | cut quote characters c rest h hc ih =>
      set place := column + characters.length
      -- The text is in front of the delimiter, and the rest is behind it.
      have hrest : Rising place (column + (characters ++ c :: rest).length)
          ([place] ++ columns (Literal.next quote c) (place + 1) rest) := by
        have hend : place + 1 + rest.length = column + (characters ++ c :: rest).length := by
          rw [List.length_append, List.length_cons]
          omega
        rw [← hend]
        exact (Rising.singleton (le_refl _) (Nat.lt_succ_self _)).append (ih (place + 1))
          (by omega) (by omega)
      have hcut : columns quote column (characters ++ c :: rest) =
          (segmentLexemes (marks quote column characters) : List (Lexeme ℕ)).map Lexeme.column ++
            ([place] ++ columns (Literal.next quote c) (place + 1) rest) := by
        rw [columns, lexemes_marks_cut h hc, List.map_append, List.map_cons]
        simp [columns, Mark.sign, place]
      rw [hcut]
      refine (rising_segment quote column characters).append hrest (by omega) ?_
      rw [List.length_append]
      omega

/-- A line has no more lexemes than characters. -/
theorem length_lexemes_marks_le (quote : Option Char) (column : ℕ) (characters : List Char) :
    (lexemes (marks quote column characters) : List (Lexeme ℕ)).length ≤ characters.length := by
  have hcolumns := (rising_columns quote column characters).length_le
  rw [columns, List.length_map] at hcolumns
  omega

end Scan

/-! ## Lines -/

theorem length_stripped_le (line : String) : (stripped line).length ≤ line.toList.length := by
  rcases stripped_cases line with hline | ⟨_, hline⟩
  · rw [hline, List.length_append]
    omega
  · rw [hline]

/-- A lexeme is on one of the lines, at one of its columns. -/
theorem line_of_mem_placed {quote : Option Char} {first : ℕ} {lines : List String}
    {found : ℕ × Lexeme ℕ} (h : found ∈ placed quote first lines) :
    ∃ index line, lines[index]? = some line ∧ found.1 = first + index ∧
      1 ≤ found.2.column ∧ found.2.column ≤ (stripped line).length := by
  induction lines generalizing quote first with
  | nil => simp at h
  | cons line lines ih =>
      rw [placed_cons] at h
      rcases List.mem_append.mp h with hline | hlines
      · obtain ⟨lexeme, hlexeme, rfl⟩ := List.mem_map.mp hline
        have hcolumn := (rising_columns quote 1 (stripped line)).bounds lexeme.column
          (List.mem_map_of_mem hlexeme)
        exact ⟨0, line, rfl, rfl, hcolumn.1, by dsimp only; omega⟩
      · obtain ⟨index, other, hother, hfirst, hcolumn⟩ := ih hlines
        exact ⟨index + 1, other, hother, by omega, hcolumn⟩

/-- Lexemes come in the order of their places. -/
theorem pairwise_placed (quote : Option Char) (first : ℕ) (lines : List String) :
    (placed quote first lines : List (ℕ × Lexeme ℕ)).Pairwise fun found next =>
      toLex (found.1, found.2.column) < toLex (next.1, next.2.column) := by
  induction lines generalizing quote first with
  | nil => exact List.Pairwise.nil
  | cons line lines ih =>
      rw [placed_cons]
      refine List.pairwise_append.mpr ⟨?_, ih _ _, ?_⟩
      · refine List.pairwise_map.mpr ?_
        refine (List.pairwise_map.mp (rising_columns quote 1 (stripped line)).pairwise).imp ?_
        intro lexeme next hlt
        exact Prod.Lex.toLex_lt_toLex.mpr (Or.inr ⟨rfl, hlt⟩)
      · intro found hfound next hnext
        obtain ⟨lexeme, _, rfl⟩ := List.mem_map.mp hfound
        obtain ⟨index, _, _, hindex, _⟩ := line_of_mem_placed hnext
        exact Prod.Lex.toLex_lt_toLex.mpr (Or.inl (by dsimp only; omega))

theorem length_join_eq (lines : List String) :
    (String.join lines).length = (lines.flatMap String.toList).length := by
  rw [← String.length_toList, String.toList_join]

/-- A line is no longer than all lines together. -/
theorem length_stripped_le_length_join {lines : List String} {line : String} (h : line ∈ lines) :
    (stripped line).length ≤ (String.join lines).length := by
  have hsublist : line.toList.Sublist (lines.flatMap String.toList) :=
    List.sublist_flatten_of_mem (List.mem_map_of_mem h)
  rw [length_join_eq]
  exact (length_stripped_le line).trans hsublist.length_le

/-- Lines have no more lexemes than characters. -/
theorem length_placed_le (quote : Option Char) (first : ℕ) (lines : List String) :
    (placed quote first lines : List (ℕ × Lexeme ℕ)).length ≤
      (lines.flatMap String.toList).length := by
  induction lines generalizing quote first with
  | nil => exact le_refl _
  | cons line lines ih =>
      have hline : (lexemes (marks quote 1 (stripped line)) : List (Lexeme ℕ)).length ≤
          line.toList.length :=
        (length_lexemes_marks_le quote 1 (stripped line)).trans (length_stripped_le line)
      rw [placed_cons, List.length_append, List.length_map, List.flatMap_cons, List.length_append]
      exact Nat.add_le_add hline (ih _ _)

/-! ## Tokens -/

section

variable {ν : Type} [Counter ν]

/-- The place of a place among all places, line by line. -/
def Position.rank (position : Position ν) : ℕ ×ₗ ℕ :=
  toLex (Counter.toNat position.line, Counter.toNat position.column)

/-- Tokens with right numbers and places, of which `emitted` have been found in the lines. -/
structure WellPlaced (lines : List String) (tokens : List (Token ν)) (emitted : ν) : Prop where
  /-- The tokens are numbered from one on, without gaps. -/
  ids : tokens.map (fun token => Counter.toNat token.id) = List.range' 1 (Counter.toNat emitted)
  /-- The tokens come in the order of their places. -/
  increasing : tokens.Pairwise fun token next => token.position.rank < next.position.rank
  /-- Every token is on one of the lines, at one of its columns. -/
  inLine : ∀ token ∈ tokens, ∃ index line, lines[index]? = some line ∧
    Counter.toNat token.position.line = index + 1 ∧
    1 ≤ Counter.toNat token.position.column ∧
    Counter.toNat token.position.column ≤ (stripped line).length

theorem map_id_numbered (first : ℕ) (found : List (ℕ × Lexeme ν)) :
    (numbered first found).map Token.id = (List.range' first found.length).map count := by
  induction found generalizing first with
  | nil => rfl
  | cons lexeme rest ih =>
      rw [← List.singleton_append, numbered_append, List.map_append, ih, List.length_append,
        List.length_singleton, Nat.add_comm 1, List.range'_succ, List.map_cons]
      rfl

theorem map_position_numbered (first : ℕ) (found : List (ℕ × Lexeme ν)) :
    (numbered first found).map Token.position =
      found.map fun (line, lexeme) => ⟨count line, lexeme.column⟩ := by
  induction found generalizing first with
  | nil => rfl
  | cons lexeme rest ih =>
      rw [← List.singleton_append, numbered_append, List.map_append, ih, List.map_append]
      rfl

end

/-- Counted in natural numbers, the tokens of a text have right numbers and places. -/
theorem wellPlaced_nat (lines : List String) :
    WellPlaced lines (tokenize lines : List (Token ℕ))
      (placed none 1 lines : List (ℕ × Lexeme ℕ)).length := by
  set found : List (ℕ × Lexeme ℕ) := placed none 1 lines
  have htokens : (tokenize lines : List (Token ℕ)) = numbered 1 found := tokenize_eq_twoPass lines
  have hpositions : (tokenize lines : List (Token ℕ)).map Token.position =
      found.map fun (line, lexeme) => ⟨line, lexeme.column⟩ := by
    simp only [htokens, map_position_numbered, count_nat]
  refine ⟨?ids, ?increasing, ?inLine⟩
  case ids =>
    have hids := map_id_numbered 1 found
    rw [← htokens] at hids
    simp only [List.map_id', funext count_nat] at hids
    exact hids
  case increasing =>
    have hranks : ((tokenize lines : List (Token ℕ)).map Token.position).Pairwise
        fun place other => place.rank < other.rank := by
      rw [hpositions]
      exact List.pairwise_map.mpr (pairwise_placed none 1 lines)
    rw [List.pairwise_map] at hranks
    exact hranks
  case inLine =>
    intro token htoken
    have hmem : token.position ∈ (tokenize lines : List (Token ℕ)).map Token.position :=
      List.mem_map_of_mem htoken
    rw [hpositions] at hmem
    obtain ⟨⟨number, lexeme⟩, hfound, hposition⟩ := List.mem_map.mp hmem
    obtain ⟨index, line, hline, hnumber, hcolumn⟩ := line_of_mem_placed hfound
    refine ⟨index, line, hline, ?_, ?_⟩
    · rw [← hposition]
      exact hnumber.trans (Nat.add_comm 1 index)
    · rw [← hposition]
      exact hcolumn

/-! ## Other counters -/

variable {ν : Type} [Counter ν]

/-- A lexeme as another counter shows it. -/
def Scan.Lexeme.counted (lexeme : Lexeme ℕ) : Lexeme ν :=
  ⟨lexeme.kind, lexeme.symbol, count lexeme.column⟩

/-- A token as another counter shows it. -/
def Token.counted (token : Token ℕ) : Token ν :=
  ⟨count token.id, token.kind, token.symbol,
    ⟨count token.position.line, count token.position.column⟩⟩

theorem map_counted_pieceLexemes (piece : List Mark) :
    (pieceLexemes piece : List (Lexeme ν)) = (pieceLexemes piece).map Lexeme.counted := by
  rw [pieceLexemes, pieceLexemes]
  split
  · rw [List.map_map]
    refine List.map_congr_left ?_
    intro mark _
    simp [Mark.sign, Lexeme.counted]
  · rw [segmentLexemes, segmentLexemes]
    cases piece.filter Mark.isKept with
    | nil => rfl
    | cons first rest => simp [keptLexemes, Lexeme.counted]

theorem map_counted_lexemes (line : List Mark) :
    (lexemes line : List (Lexeme ν)) = (lexemes line).map Lexeme.counted := by
  rw [lexemes, lexemes, List.map_flatMap]
  refine List.flatMap_congr ?_
  intro piece _
  exact map_counted_pieceLexemes piece

theorem map_counted_placed (quote : Option Char) (first : ℕ) (lines : List String) :
    (placed quote first lines : List (ℕ × Lexeme ν)) =
      (placed quote first lines).map (Prod.map id Lexeme.counted) := by
  induction lines generalizing quote first with
  | nil => rfl
  | cons line lines ih =>
      rw [placed_cons, placed_cons, ih, map_counted_lexemes, List.map_append, List.map_map,
        List.map_map]
      rfl

theorem map_counted_numbered (first : ℕ) (found : List (ℕ × Lexeme ℕ)) :
    (numbered first (found.map (Prod.map id Lexeme.counted)) : List (Token ν)) =
      (numbered first found).map Token.counted := by
  induction found generalizing first with
  | nil => rfl
  | cons lexeme rest ih =>
      rw [List.map_cons, ← List.singleton_append, numbered_append,
        ← List.singleton_append (l := rest), numbered_append, List.map_append,
        List.length_singleton, List.length_singleton, ih]
      simp [numbered, Token.counted, Lexeme.counted]

/-- Every counter shows the same tokens. -/
theorem map_counted_tokenize (lines : List String) :
    (tokenize lines : List (Token ν)) = (tokenize lines).map Token.counted := by
  rw [tokenize_eq_twoPass, tokenize_eq_twoPass, TwoPass.tokens, TwoPass.tokens,
    map_counted_placed, map_counted_numbered]

/-- A token with its numbers as they are written. -/
def Token.shown (token : Token ν) : Token ℕ :=
  ⟨Counter.toNat token.id, token.kind, token.symbol,
    ⟨Counter.toNat token.position.line, Counter.toNat token.position.column⟩⟩

/-- A counter that shows numbers as they are shows the tokens as they are. -/
theorem WellPlaced.shown_counted {lines : List String} {tokens : List (Token ℕ)}
    {emitted bound : ℕ} (h : WellPlaced lines tokens emitted) (hfaithful : Faithful ν bound)
    (hemitted : emitted ≤ bound) (hlines : lines.length ≤ bound)
    (hcolumns : ∀ line ∈ lines, (stripped line).length ≤ bound) :
    ∀ token ∈ tokens, (token.counted : Token ν).shown = token := by
  intro token htoken
  have hmem : token.id ∈ tokens.map fun token => Counter.toNat token.id :=
    List.mem_map_of_mem htoken
  rw [h.ids] at hmem
  have hid : 1 ≤ token.id ∧ token.id < 1 + emitted := List.mem_range'_1.mp hmem
  obtain ⟨index, line, hline, hnumber, -, hcolumn⟩ := h.inLine token htoken
  obtain ⟨hindex, rfl⟩ := List.getElem?_eq_some_iff.mp hline
  have hnumber : token.position.line = index + 1 := hnumber
  have hwidth := hcolumns _ (List.getElem_mem hindex)
  rw [Token.shown, Token.counted, hfaithful token.id (by omega),
    hfaithful token.position.line (by omega),
    hfaithful token.position.column (hcolumn.trans hwidth)]

/-- A counter that shows numbers as they are leaves the places right. -/
theorem WellPlaced.counted {lines : List String} {tokens : List (Token ℕ)} {emitted bound : ℕ}
    (h : WellPlaced lines tokens emitted) (hfaithful : Faithful ν bound)
    (hemitted : emitted ≤ bound) (hlines : lines.length ≤ bound)
    (hcolumns : ∀ line ∈ lines, (stripped line).length ≤ bound) :
    WellPlaced lines (tokens.map Token.counted : List (Token ν)) (count emitted) := by
  have hshown : ∀ token ∈ tokens, (token.counted : Token ν).shown = token :=
    h.shown_counted hfaithful hemitted hlines hcolumns
  have hid : ∀ token ∈ tokens, Counter.toNat (count token.id : ν) = token.id := by
    intro token htoken
    exact congrArg Token.id (hshown token htoken)
  have hposition : ∀ token ∈ tokens,
      Counter.toNat (count token.position.line : ν) = token.position.line ∧
        Counter.toNat (count token.position.column : ν) = token.position.column := by
    intro token htoken
    exact Position.mk.inj (congrArg Token.position (hshown token htoken))
  refine ⟨?ids, ?increasing, ?inLine⟩
  case ids =>
    rw [hfaithful emitted hemitted, List.map_map]
    exact (List.map_congr_left hid).trans h.ids
  case increasing =>
    refine List.pairwise_map.mpr (h.increasing.imp_of_mem ?_)
    intro token next htoken hnext hlt
    obtain ⟨hline, hcolumn⟩ := hposition token htoken
    obtain ⟨hnextLine, hnextColumn⟩ := hposition next hnext
    simp only [Position.rank, Token.counted, hline, hcolumn, hnextLine, hnextColumn]
    exact hlt
  case inLine =>
    intro shown hshown
    obtain ⟨token, htoken, rfl⟩ := List.mem_map.mp hshown
    obtain ⟨hline, hcolumn⟩ := hposition token htoken
    simp only [Token.counted, hline, hcolumn]
    exact h.inLine token htoken

end EbnfLexer
