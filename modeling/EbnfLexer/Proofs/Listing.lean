import EbnfLexer.CommandLine.Outcome
import EbnfLexer.Proofs.Conservation
import EbnfLexer.Proofs.Text.Lines

/-!
# Listings can be read back

The fields of a listed token have no fixed width, and the last of them, the symbol,
is any text.  Yet no two tokens are listed in the same way.  Every field in front of
the symbol ends before a character that cannot belong to it: a number before
something that is no digit, a code before a space.  `EndsBefore` says what this is good
for, and going through the fields from left to right gives `listed_injective`.

In a whole listing each line ends before its line feed, provided that no symbol holds
one (`endsBefore_listed`).  The symbols of a text do not: they are made of characters of
its lines, and in those there are no line feeds (`not_mem_symbol`).
-/

namespace EbnfLexer

open Counter Scan TwoPass CommandLine

/-! ## Fields -/

/-- Whether a field, as `write` writes it, can be told from the text behind it if this begins with
`stop`. -/
def EndsBefore {α : Type} (stop : Char) (write : α → List Char) : Prop :=
  ∀ ⦃value other : α⦄ ⦃rest remaining : List Char⦄,
    write value ++ stop :: rest = write other ++ stop :: remaining →
      value = other ∧ rest = remaining

/-- A field ends before a character that is not of the class of its own characters. -/
theorem endsBefore_of_class {α : Type} {write : α → List Char} {stop : Char} (belongs : Char → Bool)
    (hinjective : Function.Injective write)
    (hclass : ∀ value, ∀ c ∈ write value, belongs c) (hstop : belongs stop = false) :
    EndsBefore stop write := by
  intro value other rest remaining hsame
  -- The field is what stands in front of the first character that does not belong.
  have htake : ∀ value rest, (write value ++ stop :: rest).takeWhile belongs = write value := by
    intro value rest
    rw [List.takeWhile_append_of_pos (hclass value),
      List.takeWhile_cons_of_neg (by simp [hstop]), List.append_nil]
  have hwritten : write value = write other := by
    rw [← htake value rest, hsame, htake]
  refine ⟨hinjective hwritten, ?_⟩
  rw [hwritten] at hsame
  exact (List.cons.inj (List.append_cancel_left hsame)).2

theorem endsBefore_of_not_mem {α : Type} {write : α → List Char} {stop : Char}
    (hinjective : Function.Injective write) (hstop : ∀ value, stop ∉ write value) :
    EndsBefore stop write := by
  refine endsBefore_of_class (· != stop) hinjective ?_ (bne_self_eq_false stop)
  intro value c hc
  rw [bne_iff_ne]
  rintro rfl
  exact hstop value hc

theorem toList_digits (count : UInt64) :
    (Counter.digits count).toList = Nat.toDigits 10 count.toNat := Nat.toList_repr

theorem isDigit_of_mem_digits {count : UInt64} {c : Char}
    (hc : c ∈ (Counter.digits count).toList) : c.isDigit := by
  rw [toList_digits] at hc
  exact Nat.isDigit_of_mem_toDigits (by decide) (by decide) hc

theorem digits_injective : Function.Injective (Counter.digits : UInt64 → String) := by
  intro count other hsame
  have hdigits : Nat.toDigits 10 count.toNat = Nat.toDigits 10 other.toNat := by
    rw [← toList_digits, hsame, toList_digits]
  have hnumber : count.toNat = other.toNat :=
    calc count.toNat
        = Nat.ofDigitChars 10 (Nat.toDigits 10 count.toNat) 0 :=
          Nat.ofDigitChars_ten_toDigits.symm
      _ = Nat.ofDigitChars 10 (Nat.toDigits 10 other.toNat) 0 := by rw [hdigits]
      _ = other.toNat := Nat.ofDigitChars_ten_toDigits
  exact UInt64.toNat_inj.mp hnumber

theorem endsBefore_digits {stop : Char} (hstop : stop.isDigit = false) :
    EndsBefore stop fun count : UInt64 => (Counter.digits count).toList := by
  refine endsBefore_of_class Char.isDigit ?_ ?_ hstop
  · intro count other hsame
    exact digits_injective (String.toList_inj.mp hsame)
  · intro count c
    exact isDigit_of_mem_digits

/-- The spaces in front of a number are no part of it. -/
theorem dropWhile_padLeft_digits (width : ℕ) (count : UInt64) (rest : List Char) :
    ((padLeft width (Counter.digits count)).toList ++ rest).dropWhile (· == ' ') =
      (Counter.digits count).toList ++ rest := by
  -- A number has a first digit, and there the spaces end.
  obtain ⟨first, digits, hdigits⟩ : ∃ first digits,
      (Counter.digits count).toList = first :: digits := by
    rw [toList_digits]
    exact List.exists_cons_of_ne_nil Nat.toDigits_ne_nil
  have hfirst : first.isDigit :=
    isDigit_of_mem_digits (by rw [hdigits]; exact List.mem_cons_self ..)
  have hspace : first ≠ ' ' := by
    rintro rfl
    exact absurd hfirst (by decide)
  rw [padLeft, String.toList_append, String.toList_ofList, List.append_assoc,
    List.dropWhile_append_of_pos (by simp), hdigits, List.cons_append,
    List.dropWhile_cons_of_neg (by simpa using hspace)]

theorem endsBefore_padded {stop : Char} (width : ℕ) (hstop : stop.isDigit = false) :
    EndsBefore stop fun count : UInt64 => (padLeft width (Counter.digits count)).toList := by
  intro count other rest remaining hsame
  have hdropped := congrArg (List.dropWhile (· == ' ')) hsame
  simp only [dropWhile_padLeft_digits] at hdropped
  exact endsBefore_digits hstop hdropped

theorem endsBefore_code : EndsBefore ' ' fun kind : Kind => kind.code.toList := by
  apply endsBefore_of_not_mem
  · intro kind other hsame
    have hcode : kind.code = other.code := String.toList_inj.mp hsame
    have hfound := congrArg Kind.ofCode? hcode
    simpa using hfound
  · intro kind
    cases kind <;> decide

/-! ## Listed tokens -/

/-- The fields of a listed token, each before the character that ends it. -/
theorem toList_listed (token : Token UInt64) :
    token.listed.toList =
      "ID: ".toList ++ ((padLeft 4 (Counter.digits token.id)).toList ++ ' ' ::
        ("Type: ".toList ++ (token.kind.code.toList ++ ' ' ::
          ("Line: ".toList ++ ((padLeft 2 (Counter.digits token.position.line)).toList ++ '[' ::
            ((padLeft 2 (Counter.digits token.position.column)).toList ++ ']' ::
              (" Symbol: ".toList ++ token.symbol.toList))))))) := by
  have htype : " Type: ".toList = ' ' :: "Type: ".toList := by decide
  have hline : " Line: ".toList = ' ' :: "Line: ".toList := by decide
  have hopening : "[".toList = ['['] := by decide
  have hclosing : "]".toList = [']'] := by decide
  -- An equation for a text of so many parts is slow to derive, and one step is enough here.
  delta Token.listed
  simp only [String.toList_append, List.append_assoc, htype, hline, hopening, hclosing,
    List.cons_append, List.nil_append]

theorem listed_injective : Function.Injective (Token.listed : Token UInt64 → String) := by
  rintro ⟨id, kind, symbol, line, column⟩ ⟨id', kind', symbol', line', column'⟩ hsame
  have hfields := congrArg String.toList hsame
  rw [toList_listed, toList_listed] at hfields
  -- From left to right, each field leaves an equation between what stands behind it.
  obtain ⟨rfl, hfields⟩ := endsBefore_padded 4 (by decide) (List.append_cancel_left hfields)
  obtain ⟨rfl, hfields⟩ := endsBefore_code (List.append_cancel_left hfields)
  obtain ⟨rfl, hfields⟩ := endsBefore_padded 2 (by decide) (List.append_cancel_left hfields)
  obtain ⟨rfl, hfields⟩ := endsBefore_padded 2 (by decide) hfields
  obtain rfl := String.toList_inj.mp (List.append_cancel_left hfields)
  rfl

/-! ## Lists of tokens -/

/-- A token whose symbol is on one line. -/
abbrev OneLine : Type := { token : Token UInt64 // '\n' ∉ token.symbol.toList }

theorem not_mem_padLeft_digits (width : ℕ) (count : UInt64) :
    '\n' ∉ (padLeft width (Counter.digits count)).toList := by
  intro hmem
  rw [padLeft, String.toList_append, String.toList_ofList] at hmem
  rcases List.mem_append.mp hmem with hspace | hdigit
  · exact absurd (List.eq_of_mem_replicate hspace) (by decide)
  · exact absurd (isDigit_of_mem_digits hdigit) (by decide)

theorem not_mem_code (kind : Kind) : '\n' ∉ kind.code.toList := by
  cases kind <;> decide

theorem not_mem_listed (token : OneLine) : '\n' ∉ token.val.listed.toList := by
  rw [toList_listed]
  simp only [List.mem_append, List.mem_cons, not_or]
  -- one fact for each part of the line, from left to right
  exact ⟨by decide, not_mem_padLeft_digits _ _, by decide, by decide, not_mem_code _, by decide,
    by decide, not_mem_padLeft_digits _ _, by decide, not_mem_padLeft_digits _ _, by decide,
    by decide, token.property⟩

theorem endsBefore_listed : EndsBefore '\n' fun token : OneLine => token.val.listed.toList := by
  apply endsBefore_of_not_mem
  · intro token other hsame
    exact Subtype.ext (listed_injective (String.toList_inj.mp hsame))
  · exact not_mem_listed

theorem toList_listing_cons (token : Token UInt64) (tokens : List (Token UInt64)) :
    (listing (token :: tokens)).toList =
      token.listed.toList ++ '\n' :: (listing tokens).toList := by
  simp [listing, String.toList_join, String.toList_append]

theorem listing_cons_ne_nil (token : Token UInt64) (tokens : List (Token UInt64)) :
    listing (token :: tokens) ≠ listing ([] : List (Token UInt64)) := by
  intro hsame
  have hlist := congrArg String.toList hsame
  rw [toList_listing_cons] at hlist
  exact absurd hlist (by simp [listing])

/-- A listing of tokens that are on one line each can be taken apart line by line. -/
theorem eq_of_listing_eq {tokens others : List (Token UInt64)}
    (htokens : ∀ token ∈ tokens, '\n' ∉ token.symbol.toList)
    (hothers : ∀ other ∈ others, '\n' ∉ other.symbol.toList)
    (hsame : listing tokens = listing others) : tokens = others := by
  induction tokens generalizing others with
  | nil =>
      cases others with
      | nil => rfl
      | cons other others =>
          exact absurd hsame.symm (listing_cons_ne_nil other others)
  | cons token tokens ih =>
      cases others with
      | nil =>
          exact absurd hsame (listing_cons_ne_nil token tokens)
      | cons other others =>
          rw [List.forall_mem_cons] at htokens hothers
          have hlist := congrArg String.toList hsame
          rw [toList_listing_cons, toList_listing_cons] at hlist
          obtain ⟨hfirst, hrest⟩ :=
            @endsBefore_listed ⟨token, htokens.1⟩ ⟨other, hothers.1⟩ _ _ hlist
          have htoken : token = other := congrArg Subtype.val hfirst
          rw [htoken, ih htokens.2 hothers.2 (String.toList_inj.mp hrest)]

/-- A listing has one line feed for each token. -/
theorem count_listing {tokens : List (Token UInt64)}
    (htokens : ∀ token ∈ tokens, '\n' ∉ token.symbol.toList) :
    (listing tokens).toList.count '\n' = tokens.length := by
  induction tokens with
  | nil => rfl
  | cons token tokens ih =>
      rw [List.forall_mem_cons] at htokens
      have hlisted : token.listed.toList.count '\n' = 0 :=
        List.count_eq_zero.mpr (not_mem_listed ⟨token, htokens.1⟩)
      rw [toList_listing_cons, List.count_append, hlisted, List.count_cons_self, ih htokens.2,
        List.length_cons, Nat.zero_add]

/-! ## Symbols of a text -/

theorem exists_mem_of_mem_contents {quote : Option Char} {first : ℕ} {lines : List String}
    {content : ℕ × Kind × String} {c : Char} (hcontent : content ∈ contents quote first lines)
    (hc : c ∈ content.2.2.toList) : ∃ line ∈ lines, c ∈ line.toList := by
  induction lines generalizing quote first with
  | nil => contradiction
  | cons line lines ih =>
      rcases List.mem_append.mp hcontent with hhere | hlater
      · obtain ⟨word, hword, rfl⟩ := List.mem_map.mp hhere
        have hprinted : c ∈ printed quote (stripped line) :=
          List.mem_flatMap.mpr ⟨word, hword, hc⟩
        exact ⟨line, List.mem_cons_self .., mem_of_mem_stripped (mem_of_mem_printed hprinted)⟩
      · obtain ⟨other, hother, hmem⟩ := ih hlater
        exact ⟨other, List.mem_cons_of_mem _ hother, hmem⟩

/-- Symbols are made of characters of the lines. -/
theorem exists_mem_of_mem_symbol {ν : Type} [Counter ν] {lines : List String} {token : Token ν}
    {c : Char} (htoken : token ∈ (tokenize lines : List (Token ν)))
    (hc : c ∈ token.symbol.toList) : ∃ line ∈ lines, c ∈ line.toList := by
  have hcontent : token.content ∈ (tokenize lines : List (Token ν)).map Token.content :=
    List.mem_map_of_mem htoken
  rw [map_content_tokenize] at hcontent
  obtain ⟨content, hmem, hsame⟩ := List.mem_map.mp hcontent
  have hsymbol : content.2.2 = token.symbol := congrArg (fun content => content.2.2) hsame
  exact exists_mem_of_mem_contents hmem (hsymbol ▸ hc)

/-- The symbols of a text are on one line each. -/
theorem not_mem_symbol {ν : Type} [Counter ν] (text : String) :
    ∀ token ∈ (tokenize (Text.lines text) : List (Token ν)), '\n' ∉ token.symbol.toList := by
  intro token htoken hc
  obtain ⟨line, hline, hmem⟩ := exists_mem_of_mem_symbol htoken hc
  exact Text.not_mem_lines hline hmem

/-- **The listing is unambiguous.**  Tokens are listed in the same way only if they are the same,
and texts only if their tokens are; a listing has as many line feeds as the text has tokens.  The
choice between the two forms of JSON plays no part in it. -/
theorem listing_unambiguous :
    (∀ token other : Token UInt64, token.listed = other.listed ↔ token = other) ∧
    (∀ (text other : String) (pretty otherPretty : Bool),
      render .text pretty (tokenize (Text.lines text)) =
          render .text otherPretty (tokenize (Text.lines other)) ↔
        (tokenize (Text.lines text) : List (Token UInt64)) = tokenize (Text.lines other)) ∧
    ∀ (text : String) (pretty : Bool),
      (render .text pretty (tokenize (Text.lines text))).toList.count '\n' =
        (tokenize (Text.lines text) : List (Token UInt64)).length := by
  refine ⟨fun token other => listed_injective.eq_iff, ?_, ?_⟩
  · intro text other pretty otherPretty
    constructor
    · intro hsame
      exact eq_of_listing_eq (not_mem_symbol text) (not_mem_symbol other) hsame
    · intro hsame
      rw [hsame]
      rfl
  · intro text pretty
    exact count_listing (not_mem_symbol text)

end EbnfLexer
