import Mathlib.Data.List.Chain
import QuotedText.Proofs.Sql.Lexeme
import QuotedText.Proofs.Text.Trim

/-!
# Tokens in their text

The tokens of a text are parts of it, in order and without overlap, and what lies between them only
separates (`Sql.tokens_layout`). Blank text that makes no token may stand in such a gap, but never
alone between two identifiers, as it would belong to one of them.
-/

namespace QuotedText.Sql

/-- A token has the form of its kind. -/
def Token.WellFormed (token : Token) : Prop :=
  match token.kind with
  | .identifier =>
    (∃ c ∈ token.text, isBlank c = false) ∧
      ∀ c ∈ token.text, isDelimiter c = false ∧ c ≠ '\''
  | .stringLiteral => ∃ body, token.text = '\'' :: (body ++ ['\'']) ∧ '\'' ∉ body
  | .functionCall => token.text = nowCall

/-- A token and the text between it and the next token. -/
structure Token.Placed where
  /-- The token. -/
  token : Token
  /-- What follows the token. -/
  gap : Text

/-- A text is made up of tokens that are held apart by separators. -/
structure IsLayout (text first : Text) (placed : List Token.Placed) : Prop where
  /-- The first gap and then each token with the gap behind it make up the text. -/
  whole : text = first ++ placed.flatMap fun part => part.token.text ++ part.gap
  /-- Gaps hold blanks, parentheses and commas. -/
  separators : ∀ gap ∈ first :: placed.map (·.gap), ∀ c ∈ gap, isWordSeparator c = true
  /-- Each token has the form of its kind. -/
  formed : ∀ part ∈ placed, part.token.WellFormed
  /-- Between two identifiers is something that ends a word. -/
  apart : placed.IsChain fun a b => a.token.kind = .identifier → b.token.kind = .identifier →
    ∃ c ∈ a.gap, isDelimiter c = true

variable {text gap : Text} {placed : List Token.Placed}

/-- Separators before a text belong to its first gap. -/
theorem IsLayout.separator {front : Text} (layout : IsLayout text gap placed)
    (separates : ∀ c ∈ front, isWordSeparator c = true) :
    IsLayout (front ++ text) (front ++ gap) placed where
  whole := by rw [layout.whole, List.append_assoc]
  separators := by
    obtain ⟨inGap, inOthers⟩ := List.forall_mem_cons.mp layout.separators
    refine List.forall_mem_cons.mpr ⟨?_, inOthers⟩
    intro c member
    rcases List.mem_append.mp member with inFront | later
    · exact separates c inFront
    · exact inGap c later
  formed := layout.formed
  apart := layout.apart

/-- A token before a text takes the first gap of the text. -/
theorem IsLayout.token {token : Token} (layout : IsLayout text gap placed)
    (formed : token.WellFormed)
    (apart : token.kind = .identifier → ∀ next ∈ placed.head?, next.token.kind = .identifier →
      ∃ c ∈ gap, isDelimiter c = true) :
    IsLayout (token.text ++ text) [] (⟨token, gap⟩ :: placed) where
  whole := by simp [layout.whole]
  separators := List.forall_mem_cons.mpr ⟨by simp, layout.separators⟩
  formed := List.forall_mem_cons.mpr ⟨formed, layout.formed⟩
  apart := List.isChain_cons.mpr
    ⟨fun next isNext first second => apart first next isNext second, layout.apart⟩

/-- Only when the text begins with a word can an identifier follow without something that ends a
word. -/
def Leads (lexemes : List Lexeme) (gap : Text) (placed : List Token.Placed) : Prop :=
  ∀ next ∈ placed.head?, next.token.kind = .identifier →
    (∃ c ∈ gap, isDelimiter c = true) ∨ ∃ lexeme ∈ lexemes.head?, lexeme.kind = .word

/-- Before a token that is no identifier nothing has to end a word. -/
theorem leads_of_other {token : Token} {lexemes : List Lexeme} {first : Text}
    (other : token.kind ≠ .identifier) : Leads lexemes first (⟨token, gap⟩ :: placed) := by
  intro next isNext identifier
  obtain rfl := Option.some.inj isNext
  exact absurd identifier other

/-- An identifier is a word that is not blank. -/
theorem Lexeme.token?_eq_identifier_iff {lexeme : Lexeme} {text : Text} :
    lexeme.token? = some ⟨.identifier, text⟩ ↔
      lexeme = ⟨.word, text⟩ ∧ ∃ c ∈ text, isBlank c = false := by
  obtain ⟨kind, part⟩ := lexeme
  cases kind with
  | word =>
    have visible : ¬part.isBlankText = true ↔ ∃ c ∈ part, isBlank c = false := by
      rw [Bool.not_eq_true, Text.isBlankText_eq_false_iff]
    simp only [token?, Option.ite_none_left_eq_some, visible, Option.some.injEq, Token.mk.injEq,
      Lexeme.mk.injEq, true_and]
    constructor
    · rintro ⟨visible, rfl⟩
      exact ⟨rfl, visible⟩
    · rintro ⟨rfl, visible⟩
      exact ⟨visible, rfl⟩
  | literal => simp [token?]
  | call => simp [token?]
  | gap => simp [token?]
  | unterminated => simp [token?]

/-- Well-lexed text whose literals are closed is made up of the tokens of its lexemes. -/
theorem Lexeme.WellLexed.exists_layout {lexemes : List Lexeme} (lexed : WellLexed lexemes)
    (closed : ∀ lexeme ∈ lexemes, lexeme.kind ≠ .unterminated) :
    ∃ gap placed, IsLayout (texts lexemes) gap placed ∧
      placed.map (·.token) = lexemes.filterMap (·.token?) ∧ Leads lexemes gap placed := by
  induction lexed with
  | nil =>
    have leads : Leads [] [] [] := by simp [Leads]
    exact ⟨[], [], ⟨rfl, by simp, by simp, .nil⟩, rfl, leads⟩
  | @word part more nonempty plain maximal _ ih =>
    obtain ⟨gap, placed, layout, tokens, leads⟩ := ih (List.forall_mem_cons.mp closed).2
    rw [texts_cons]
    cases blank : part.isBlankText with
    | true =>
      -- A blank word is no token: it joins the gap behind it.
      have allBlank : ∀ c ∈ part, isBlank c = true := List.all_eq_true.mp blank
      have separates : ∀ c ∈ part, isWordSeparator c = true :=
        fun c member => isWordSeparator_of_isBlank (allBlank c member)
      have noToken : Lexeme.token? ⟨.word, part⟩ = none := by simp [token?, blank]
      refine ⟨part ++ gap, placed, layout.separator separates, ?_, fun _ _ _ => .inr ⟨_, rfl, rfl⟩⟩
      rw [tokens, List.filterMap_cons_none noToken]
    | false =>
      have visible : ∃ c ∈ part, isBlank c = false := by
        simpa [Text.isBlankText] using blank
      have isToken := token?_eq_identifier_iff.mpr ⟨rfl, visible⟩
      have formed : Token.WellFormed ⟨.identifier, part⟩ := ⟨visible, plain⟩
      refine ⟨[], ⟨⟨.identifier, part⟩, gap⟩ :: placed, layout.token formed ?_, ?_,
        fun _ _ _ => .inr ⟨_, rfl, rfl⟩⟩
      · intro _ next isNext identifier
        rcases leads next isNext identifier with delimited | ⟨lexeme, isFirst, isWord⟩
        · exact delimited
        · exact absurd isWord (maximal lexeme isFirst)
      · rw [List.map_cons, tokens, List.filterMap_cons_some isToken]
  | @literal body more inside _ ih =>
    obtain ⟨gap, placed, layout, tokens, -⟩ := ih (List.forall_mem_cons.mp closed).2
    have formed : Token.WellFormed ⟨.stringLiteral, '\'' :: (body ++ ['\''])⟩ :=
      ⟨body, rfl, inside⟩
    have other : TokenKind.stringLiteral ≠ .identifier := by decide
    refine ⟨[], ⟨⟨.stringLiteral, '\'' :: (body ++ ['\''])⟩, gap⟩ :: placed, ?_, ?_,
      leads_of_other other⟩
    · exact layout.token formed fun identifier => absurd identifier other
    · rw [List.map_cons, tokens]
      rfl
  | @call more _ ih =>
    obtain ⟨gap, placed, layout, tokens, -⟩ := ih (List.forall_mem_cons.mp closed).2
    have formed : Token.WellFormed ⟨.functionCall, nowCall⟩ := rfl
    have other : TokenKind.functionCall ≠ .identifier := by decide
    refine ⟨[], ⟨⟨.functionCall, nowCall⟩, gap⟩ :: placed, ?_, ?_, leads_of_other other⟩
    · exact layout.token formed fun identifier => absurd identifier other
    · rw [List.map_cons, tokens]
      rfl
  | @gap c blanks more begins blank _ ih =>
    obtain ⟨gap, placed, layout, tokens, -⟩ := ih (List.forall_mem_cons.mp closed).2
    have separates : ∀ d ∈ c :: blanks, isWordSeparator d = true := List.forall_mem_cons.mpr
      ⟨isWordSeparator_of_isDelimiter begins,
        fun d member => isWordSeparator_of_isBlank (blank d member)⟩
    refine ⟨(c :: blanks) ++ gap, placed, layout.separator separates, tokens, ?_⟩
    exact fun _ _ _ => .inl ⟨c, by simp, begins⟩
  | unterminated => exact absurd rfl (closed _ List.mem_cons_self)

/-- The tokens of a text have the form of their kinds. -/
theorem wellFormed_of_mem_tokens {text : Text} {found : List Token}
    (lexed : tokens text = .ok found) : ∀ token ∈ found, token.WellFormed := by
  obtain ⟨closed, rfl⟩ := tokens_eq_ok_iff.mp lexed
  obtain ⟨gap, placed, layout, same, -⟩ := (Lexeme.wellLexed_ofText text).exists_layout closed
  rw [← same]
  intro token member
  obtain ⟨part, isPart, rfl⟩ := List.mem_map.mp member
  exact layout.formed part isPart

/-- A text that has tokens is made up of them and of separators between them. -/
theorem tokens_layout {text : Text} {found : List Token} (lexed : tokens text = .ok found) :
    ∃ first placed, placed.map (·.token) = found ∧ IsLayout text first placed := by
  obtain ⟨closed, rfl⟩ := tokens_eq_ok_iff.mp lexed
  obtain ⟨first, placed, layout, same, -⟩ := (Lexeme.wellLexed_ofText text).exists_layout closed
  rw [Lexeme.ofText_flatten] at layout
  exact ⟨first, placed, same, layout⟩

/-- A blank that a tab does not open makes no token before a parenthesis, and two literals need
nothing between them. -/
theorem tokens_layout_blank_word :
    tokens "x\u00a0\t\u2003(\u00a0('a b''c',NOW())y".toList =
        .ok [⟨.identifier, "x\u00a0".toList⟩, ⟨.stringLiteral, "'a b'".toList⟩,
          ⟨.stringLiteral, "'c'".toList⟩, ⟨.functionCall, nowCall⟩, ⟨.identifier, ['y']⟩] ∧
      ∃ first placed, placed.map (·.token) =
          [⟨.identifier, "x\u00a0".toList⟩, ⟨.stringLiteral, "'a b'".toList⟩,
            ⟨.stringLiteral, "'c'".toList⟩, ⟨.functionCall, nowCall⟩, ⟨.identifier, ['y']⟩] ∧
        IsLayout "x\u00a0\t\u2003(\u00a0('a b''c',NOW())y".toList first placed := by
  have lexed : tokens "x\u00a0\t\u2003(\u00a0('a b''c',NOW())y".toList =
      .ok [⟨.identifier, "x\u00a0".toList⟩, ⟨.stringLiteral, "'a b'".toList⟩,
        ⟨.stringLiteral, "'c'".toList⟩, ⟨.functionCall, nowCall⟩, ⟨.identifier, ['y']⟩] := by
    decide +kernel
  exact ⟨lexed, tokens_layout lexed⟩

end QuotedText.Sql
