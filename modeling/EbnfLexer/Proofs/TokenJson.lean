import EbnfLexer.CommandLine.Outcome
import EbnfLexer.Proofs.Json.Parts

/-!
# Tokens are read back from JSON

A written token is an object whose entries fill the draft of a token in the order of
its fields, and its place is such an object inside it.  Every field of a draft is
empty before its entry comes, so no entry is taken for a repeated one, and the draft
is complete behind the last entry.

From this, no output in JSON has lost anything: it holds its tokens in either layout,
and other tokens have another output.
-/

namespace EbnfLexer

open Json CommandLine

/-! ## Values of fields -/

theorem reads_kind (kind : Kind) : Kind.reader.Reads (writeString kind.name) kind :=
  reads_choice ⟨Kind.all, Kind.name⟩ (Kind.ofName?_name kind)

theorem reads_count (count : UInt64) : Reader.word.Reads (writeCount count) count :=
  reads_word count

theorem reads_position (layout : Layout) (depth : ℕ) (position : Position UInt64) :
    Position.reader.Reads (position.write layout depth) position := by
  obtain ⟨line, column⟩ := position
  have hline : Position.record.Takes {} (writeString "line" ++ layout.colon ++ writeCount line)
      { line } := Record.takes_written layout rfl rfl rfl (reads_count line)
  have hcolumn : Position.record.Takes { line }
      (writeString "column" ++ layout.colon ++ writeCount column) { line, column } :=
    Record.takes_written layout rfl rfl rfl (reads_count column)
  exact Record.reads_written layout depth (.cons hline (.cons hcolumn (.nil _))) rfl

theorem reads_token (layout : Layout) (depth : ℕ) (token : Token UInt64) :
    Token.reader.Reads (token.write layout depth) token := by
  obtain ⟨id, kind, symbol, position⟩ := token
  have hid : Token.record.Takes {} (writeString "id" ++ layout.colon ++ writeCount id) { id } :=
    Record.takes_written layout rfl rfl rfl (reads_count id)
  have hkind : Token.record.Takes { id }
      (writeString "kind" ++ layout.colon ++ writeString kind.name) { id, kind } :=
    Record.takes_written layout rfl rfl rfl (reads_kind kind)
  have hsymbol : Token.record.Takes { id, kind }
      (writeString "symbol" ++ layout.colon ++ writeString symbol) { id, kind, symbol } :=
    Record.takes_written layout rfl rfl rfl (reads_text symbol)
  have hposition : Token.record.Takes { id, kind, symbol }
      (writeString "position" ++ layout.colon ++ position.write layout (depth + 1))
      { id, kind, symbol, position } :=
    Record.takes_written layout rfl rfl rfl (reads_position layout (depth + 1) position)
  exact Record.reads_written layout depth
    (.cons hid (.cons hkind (.cons hsymbol (.cons hposition (.nil _))))) rfl

theorem reads_tokens (layout : Layout) (tokens : List (Token UInt64)) :
    Token.reader.list.Reads (writeTokens layout tokens) tokens := by
  refine reads_list_written layout 0 ?_
  rw [List.forall₂_map_left_iff]
  exact List.forall₂_same.mpr fun token _ => reads_token layout 1 token

/-! ## Whole outputs -/

theorem decode_render (prettyJson : Bool) (tokens : List (Token UInt64)) :
    decode Token.reader.list (render .json prettyJson tokens) = .ok tokens := by
  have hlineFeed : Blank ['\n'] := by simp [Blank, isBlank]
  exact (reads_tokens _ tokens).decode_append hlineFeed

/-- **Written tokens are read back.**  One token or a list of them comes back from either layout,
whatever blanks stand behind.  So do the tokens of every output in JSON, and no two outputs are the
same unless their tokens are. -/
theorem decode_written_tokens {blanks : List Char} (hblanks : ∀ c ∈ blanks, isBlank c) :
    (∀ (layout : Layout) (tokens : List (Token UInt64)),
      decode Token.reader.list (String.ofList (writeTokens layout tokens ++ blanks)) =
        .ok tokens) ∧
    (∀ (layout : Layout) (token : Token UInt64),
      decode Token.reader (String.ofList (token.write layout 0 ++ blanks)) = .ok token) ∧
    (∀ (prettyJson : Bool) (tokens : List (Token UInt64)),
      decode Token.reader.list (render .json prettyJson tokens) = .ok tokens) ∧
    (∀ (prettyJson otherPretty : Bool) (tokens others : List (Token UInt64)),
      tokens ≠ others → render .json prettyJson tokens ≠ render .json otherPretty others) := by
  refine ⟨?list, ?single, decode_render, ?distinct⟩
  case list =>
    intro layout tokens
    exact (reads_tokens layout tokens).decode_append hblanks
  case single =>
    intro layout token
    exact (reads_token layout 0 token).decode_append hblanks
  case distinct =>
    intro prettyJson otherPretty tokens others hne hsame
    have hread := decode_render prettyJson tokens
    rw [hsame, decode_render otherPretty others] at hread
    exact hne (Except.ok.inj hread).symm

/-- The largest number, and a symbol with a quotation mark, a backslash, a control character and a
character beyond the basic plane. -/
theorem decode_written_escapes :
    (∀ c ∈ [' ', '\t', '\r', '\n'], isBlank c) ∧
    decode Token.reader.list
      ("[\x7b\"id\":18446744073709551615,\"kind\":\"Identifier\"," ++
        "\"symbol\":\"\\\"\\\\\\u0001𝄞\",\"position\":\x7b\"line\":0,\"column\":10\x7d\x7d] \t\r\n") =
      .ok [⟨18446744073709551615, .identifier, "\"\\\x01𝄞", ⟨0, 10⟩⟩] := by
  have hblanks : ∀ c ∈ [' ', '\t', '\r', '\n'], isBlank c := by simp [isBlank]
  have hread := (decode_written_tokens hblanks).1 .compact
    [⟨18446744073709551615, .identifier, "\"\\\x01𝄞", ⟨0, 10⟩⟩]
  have hwritten : String.ofList (writeTokens .compact
      [(⟨18446744073709551615, .identifier, "\"\\\x01𝄞", ⟨0, 10⟩⟩ : Token UInt64)] ++
        [' ', '\t', '\r', '\n']) =
      "[\x7b\"id\":18446744073709551615,\"kind\":\"Identifier\"," ++
        "\"symbol\":\"\\\"\\\\\\u0001𝄞\",\"position\":\x7b\"line\":0,\"column\":10\x7d\x7d] \t\r\n" := by
    decide +kernel
  rw [hwritten] at hread
  exact ⟨hblanks, hread⟩

end EbnfLexer
