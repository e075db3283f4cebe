import EbnfLexer.Json.Layout
import EbnfLexer.Json.Record
import EbnfLexer.Token

/-!
# Tokens as JSON

A token is written as an object with its fields in the order of their
declaration, and its kind by the long name.  Written tokens are read back by the
readers of this module, which also take the fields in any other order, or as
the elements of a list.
-/

namespace EbnfLexer

open Json

/-! ## Writing -/

variable {ν : Type} [Counter ν]

/-- A count in decimal digits. -/
def writeCount (count : ν) : List Char := writeNatural (Counter.toNat count)

/-- A place as an object. -/
def Position.write (layout : Layout) (depth : Nat) (position : Position ν) : List Char :=
  layout.object depth [("line", writeCount position.line), ("column", writeCount position.column)]

/-- A token as an object. -/
def Token.write (layout : Layout) (depth : Nat) (token : Token ν) : List Char :=
  layout.object depth
    [("id", writeCount token.id), ("kind", writeString token.kind.name),
      ("symbol", writeString token.symbol),
      ("position", token.position.write layout (depth + 1))]

/-- Tokens as a list. -/
def writeTokens (layout : Layout) (tokens : List (Token ν)) : List Char :=
  layout.list 0 (tokens.map (Token.write layout 1))

/-! ## Reading -/

/-- Kinds by their long names. -/
def Kind.reader : Reader Kind := .choice ⟨Kind.all, Kind.name⟩

/-- The fields of a place that have been read. -/
structure Position.Draft where
  line : Option UInt64 := none
  column : Option UInt64 := none

/-- Places as records. -/
def Position.record : Record Position.Draft (Position UInt64) where
  name := "struct Position"
  arity := "struct Position with 2 elements"
  empty := {}
  fields := [
    .of "line" (·.line.isSome) .word fun draft line => { draft with line },
    .of "column" (·.column.isSome) .word fun draft column => { draft with column }]
  finish draft :=
    match draft with
    | ⟨none, _⟩ => .error "line"
    | ⟨_, none⟩ => .error "column"
    | ⟨some line, some column⟩ => .ok ⟨line, column⟩

/-- Places. -/
def Position.reader : Reader (Position UInt64) := Position.record.reader

/-- The fields of a token that have been read. -/
structure Token.Draft where
  id : Option UInt64 := none
  kind : Option Kind := none
  symbol : Option String := none
  position : Option (Position UInt64) := none

/-- Tokens as records. -/
def Token.record : Record Token.Draft (Token UInt64) where
  name := "struct Token"
  arity := "struct Token with 4 elements"
  empty := {}
  fields := [
    .of "id" (·.id.isSome) .word fun draft id => { draft with id },
    .of "kind" (·.kind.isSome) Kind.reader fun draft kind => { draft with kind },
    .of "symbol" (·.symbol.isSome) .text fun draft symbol => { draft with symbol },
    .of "position" (·.position.isSome) Position.reader
      fun draft position => { draft with position }]
  finish draft :=
    match draft with
    | ⟨none, _, _, _⟩ => .error "id"
    | ⟨_, none, _, _⟩ => .error "kind"
    | ⟨_, _, none, _⟩ => .error "symbol"
    | ⟨_, _, _, none⟩ => .error "position"
    | ⟨some id, some kind, some symbol, some position⟩ => .ok ⟨id, kind, symbol, position⟩

/-- Tokens. -/
def Token.reader : Reader (Token UInt64) := Token.record.reader

end EbnfLexer
