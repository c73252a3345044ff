import QuotedText.Proofs.Quote.ByteScan
import QuotedText.Proofs.Sql.Literal
import QuotedText.Proofs.Sql.Separated

/-!
# Tokens by byte position

The tokens of a text can be found by a loop over its byte positions that keeps the characters of a
word until something ends it. It comes to the tokens of the text or to its first literal that stays
open (`Sql.lexScan_answers`). With this every scan of the library has a form that moves a byte
position, and none of them ever divides a character (`Sql.scans_keep_to_boundaries`).
-/

namespace QuotedText.Sql

open QuoteStyle Lexeme

/-! ## Blanks -/

/-- The way over blanks by byte position. It breaks off at a character that is no blank. -/
def blankScan : ByteScan Unit Nat Nat where
  round? position c _ :=
    if isBlank c then some (.goOn (position + c.utf8Size) ()) else some (.breakOff position)
  finish position _ := position

/-- Where the blanks at the head of a text end when the text starts at `position`, and whether the
text ends with them. -/
def blankEnd (position : Nat) (text : Text) : Except Nat Nat :=
  let stop := position + Text.byteLength (text.takeWhile isBlank)
  if text.dropWhile isBlank = [] then .ok stop else .error stop

/-- The way over blanks ends where the blanks end. -/
theorem blankScan_answers (text : Text) :
    blankScan.Answers text fun position _ left => blankEnd position left where
  finish _ := rfl
  round := by
    rintro front c rest state rfl
    cases blank : isBlank c with
    | true =>
      refine ⟨.goOn (front.byteLength + c.utf8Size) (), if_pos blank, .char ?_⟩
      simp [blankEnd, blank, Nat.add_assoc]
    | false =>
      refine ⟨.breakOff front.byteLength, if_neg (by simp [blank]), ?_⟩
      simp [ByteScan.Round.LeadsTo, blankEnd, blank]

/-! ## Lexemes -/

/-- What the loop has read. -/
structure LexState where
  /-- The characters of the word that is not complete. -/
  word : Text := []
  /-- The tokens before it. -/
  found : List Token := []

namespace LexState

/-- Completes a word, which is a token unless it is blank. -/
def flush (state : LexState) : LexState :=
  if state.word.isBlankText then { state with word := [] }
  else { word := [], found := state.found ++ [⟨.identifier, state.word⟩] }

/-- The state with one more token behind a word that is complete. -/
def push (state : LexState) (token : Token) : LexState :=
  { state with found := state.found ++ [token] }

/-- The state with one more character in the word that is not complete. -/
def extend (state : LexState) (c : Char) : LexState :=
  { state with word := state.word ++ [c] }

/-- What the lexemes of the text that is left add to the tokens: the first of them may go on from
the word that is not complete. -/
def foundWith (state : LexState) (lexemes : List Lexeme) : List Token :=
  state.found ++ (state.word.foldr consWord lexemes).filterMap (·.token?)

end LexState

/-- The loop over a text by byte position that finds its tokens. -/
def lexScan (text : Text) : ByteScan LexState LexError (List Token) where
  round? position c state :=
    match (literals .sensitive .none).regionAt? text position with
    | some region =>
      if region.terminated then
        (text.slice? position region.stop).map fun literal =>
          .goOn region.stop (state.flush.push ⟨.stringLiteral, literal⟩)
      else some (.breakOff (.unterminatedLiteral position))
    | none =>
      let next := position + c.utf8Size
      if beginsBlankGap c then
        (blankScan.run? text next ()).map fun
          | .ok stop | .error stop => .goOn stop state.flush
      else if isPunctuation c then some (.goOn next state.flush)
      else if c = 'N' then
        (text.behind? position).map fun behind =>
          if nowCall.isPrefixOf behind then
            .goOn (position + nowCall.byteLength) (state.flush.push ⟨.functionCall, nowCall⟩)
          else .goOn next (state.extend c)
      else some (.goOn next (state.extend c))
  finish _ state := state.flush.found

/-- A closed lexeme changes nothing of whether the lexemes behind it have tokens. -/
theorem map_tokensFrom_cons {α : Type} {position : Nat} {lexeme : Lexeme} {more : List Lexeme}
    (closed : lexeme.kind ≠ .unterminated) (found : α) :
    (tokensFrom position (lexeme :: more)).map (fun _ => found) =
      (tokensFrom (position + lexeme.text.byteLength) more).map fun _ => found := by
  rw [tokensFrom, if_neg closed]
  cases tokensFrom (position + lexeme.text.byteLength) more <;> rfl

/-- A character of a word changes nothing of it either. -/
theorem map_tokensFrom_consWord {α : Type} (position : Nat) (c : Char) (lexemes : List Lexeme)
    (found : α) :
    (tokensFrom position (consWord c lexemes)).map (fun _ => found) =
      (tokensFrom (position + c.utf8Size) lexemes).map fun _ => found := by
  have word : LexemeKind.word ≠ .unterminated := by decide
  unfold consWord
  split
  · rw [map_tokensFrom_cons word, map_tokensFrom_cons word, Text.byteLength_cons, Nat.add_assoc]
  · rw [map_tokensFrom_cons word]
    rfl

namespace LexState

/-- No word is left when it is complete. -/
@[simp] theorem word_flush (state : LexState) : state.flush.word = [] := by
  unfold flush
  split <;> rfl

/-- When no word is left, each lexeme adds its own token. -/
theorem foundWith_of_complete {state : LexState} (complete : state.word = [])
    (lexemes : List Lexeme) :
    state.foundWith lexemes = state.found ++ lexemes.filterMap (·.token?) := by
  rw [foundWith, complete, List.foldr_nil]

/-- Characters of a word before lexemes that begin with no word are a word. -/
theorem foldr_consWord {lexemes : List Lexeme} (apart : ∀ next ∈ lexemes.head?, next.kind ≠ .word)
    {word : Text} (nonempty : word ≠ []) :
    word.foldr consWord lexemes = ⟨.word, word⟩ :: lexemes := by
  induction word with
  | nil => contradiction
  | cons c word ih =>
    rw [List.foldr_cons]
    by_cases last : word = []
    · rw [last, List.foldr_nil, consWord_apart apart]
    · rw [ih last, consWord]

/-- A word may be completed before lexemes that begin with no word. -/
theorem foundWith_flush {lexemes : List Lexeme} (state : LexState)
    (apart : ∀ next ∈ lexemes.head?, next.kind ≠ .word) :
    state.flush.foundWith lexemes = state.foundWith lexemes := by
  rw [foundWith_of_complete state.word_flush]
  by_cases complete : state.word = []
  · have unchanged : state.flush.found = state.found := by simp [flush, complete]
    rw [foundWith_of_complete complete, unchanged]
  · rw [foundWith, foldr_consWord apart complete]
    cases blank : state.word.isBlankText <;> simp [flush, blank, token?]

/-- A character of a word goes to the word that is not complete. -/
theorem foundWith_extend (state : LexState) (c : Char) (lexemes : List Lexeme) :
    (state.extend c).foundWith lexemes = state.foundWith (consWord c lexemes) := by
  simp [foundWith, extend]

/-- A gap completes the word before it. -/
theorem foundWith_gap (state : LexState) (text : Text) (more : List Lexeme) :
    state.flush.foundWith more = state.foundWith (⟨.gap, text⟩ :: more) := by
  rw [← foundWith_flush state (by simp), foundWith_of_complete state.word_flush,
    foundWith_of_complete state.word_flush]
  rfl

/-- A lexeme that is no word completes the word before it and adds its token. -/
theorem foundWith_push (state : LexState) {lexeme : Lexeme} {token : Token}
    (other : lexeme.kind ≠ .word) (isToken : lexeme.token? = some token) (more : List Lexeme) :
    (state.flush.push token).foundWith more = state.foundWith (lexeme :: more) := by
  have complete : (state.flush.push token).word = [] := state.word_flush
  rw [← foundWith_flush state (by simpa using other), foundWith_of_complete complete,
    foundWith_of_complete state.word_flush, List.filterMap_cons_some isToken, push,
    List.append_assoc, List.singleton_append]

end LexState

/-! ## Rounds -/

/-- What the loop comes to when it has read up to a position and `left` is left. -/
def lexAnswer (position : Nat) (state : LexState) (left : Text) :
    Except LexError (List Token) :=
  (tokensFrom position (ofText left)).map fun _ => state.foundWith (ofText left)

variable {position : Nat} {state : LexState} {left front rest : Text} {c : Char}

/-- A gap completes the word before it. -/
theorem lexAnswer_gap {text : Text} (next : ofText left = ⟨.gap, text⟩ :: ofText rest) :
    lexAnswer position state left =
      lexAnswer (position + text.byteLength) state.flush rest := by
  have closed : LexemeKind.gap ≠ .unterminated := by decide
  rw [lexAnswer, next, map_tokensFrom_cons closed, ← state.foundWith_gap]
  rfl

/-- A literal or a call completes the word before it and is a token. -/
theorem lexAnswer_push {lexeme : Lexeme} {token : Token} (other : lexeme.kind ≠ .word)
    (isToken : lexeme.token? = some token) (next : ofText left = lexeme :: ofText rest) :
    lexAnswer position state left =
      lexAnswer (position + lexeme.text.byteLength) (state.flush.push token) rest := by
  have closed : lexeme.kind ≠ .unterminated := by
    intro isOpen
    rw [token?, isOpen] at isToken
    contradiction
  rw [lexAnswer, next, map_tokensFrom_cons closed, ← state.foundWith_push other isToken]
  rfl

/-- A character of a word goes to the word that is not complete. -/
theorem lexAnswer_extend (next : ofText (c :: rest) = consWord c (ofText rest)) :
    lexAnswer position state (c :: rest) =
      lexAnswer (position + c.utf8Size) (state.extend c) rest := by
  rw [lexAnswer, next, map_tokensFrom_consWord, ← state.foundWith_extend]
  rfl

/-- At a quote the loop passes over a literal, or breaks off when the literal stays open. -/
theorem lexScan_round_quote (front rest : Text) (state : LexState) :
    ∃ round, (lexScan (front ++ '\'' :: rest)).round? front.byteLength '\'' state = some round ∧
      round.LeadsTo lexAnswer front.byteLength ('\'' :: rest)
        (lexAnswer front.byteLength state ('\'' :: rest)) := by
  have quote : (literals .sensitive .none).isQuote '\'' := isQuote_literals.mpr rfl
  simp only [lexScan, regionAt?_append]
  rcases closing?_cases (literals .sensitive .none) '\'' rest with
    ⟨body, close, after, rfl, inside, closes, ends⟩ | inside
  · obtain rfl : close = '\'' := closes_literals.mp closes
    have found := region?_closed quote inside closes ends
    have slice := Text.slice?_append front ('\'' :: (body ++ ['\''])) after
    have whole : '\'' :: (body ++ '\'' :: after) = '\'' :: (body ++ ['\'']) ++ after := by simp
    rw [← whole] at slice
    simp only [found, Option.map_some, if_true, slice]
    refine ⟨_, rfl, leadsTo_region found ?_⟩
    exact lexAnswer_push (by simp) rfl (ofText_literal (not_mem_of_inside inside) after)
  · have found := region?_open quote inside
    simp only [found, Option.map_some, Bool.false_eq_true, if_false]
    refine ⟨_, rfl, ?_⟩
    rw [lexAnswer, ofText_unterminated (not_mem_of_inside inside)]
    rfl

/-- The round at a character that is no quote. -/
theorem lexScan_round?_unquoted (unquoted : c ≠ '\'') :
    (lexScan (front ++ c :: rest)).round? front.byteLength c state =
      some (if beginsBlankGap c then
          .goOn (front.byteLength + c.utf8Size + Text.byteLength (rest.takeWhile isBlank))
            state.flush
        else if isPunctuation c then .goOn (front.byteLength + c.utf8Size) state.flush
        else if nowCall <+: c :: rest then
          .goOn (front.byteLength + nowCall.byteLength)
            (state.flush.push ⟨.functionCall, nowCall⟩)
        else .goOn (front.byteLength + c.utf8Size) (state.extend c)) := by
  have plain : (literals .sensitive .none).isQuote c = false := by
    rw [Bool.eq_false_iff, Ne, isQuote_literals]
    exact unquoted
  simp only [lexScan, regionAt?_append, region?_unquoted plain, Option.map_none]
  split
  · have split : front ++ c :: rest = (front ++ [c]) ++ rest := by simp
    have way := (blankScan_answers (front ++ c :: rest)).run?_eq split ()
    rw [Text.byteLength_append, Text.byteLength_cons, Text.byteLength_nil, Nat.add_zero] at way
    rw [way, Option.map_some, blankEnd]
    cases rest.dropWhile isBlank <;> rfl
  · split
    · rfl
    · split
      · rename_i capital
        subst capital
        simp only [Text.behind?_append, Option.map_some, List.isPrefixOf_iff_prefix]
      · rename_i other
        rw [if_neg (not_call other)]

/-- The loop comes to the tokens of the text that is left, the first of which goes on from the word
that is not complete, or to the first literal in it that stays open. -/
theorem lexScan_answers (text : Text) : (lexScan text).Answers text lexAnswer where
  finish state := by
    have nothing : ofText [] = [] := by rw [ofText]
    rw [lexAnswer, nothing, ← state.foundWith_flush (by simp),
      LexState.foundWith_of_complete state.word_flush]
    exact congrArg Except.ok (List.append_nil _)
  round := by
    rintro front c rest state rfl
    by_cases quote : c = '\''
    · subst quote
      exact lexScan_round_quote front rest state
    rw [lexScan_round?_unquoted quote]
    refine ⟨_, rfl, ?_⟩
    by_cases begins : beginsBlankGap c = true
    · have passed : (c :: rest.takeWhile isBlank) ++ rest.dropWhile isBlank = c :: rest :=
        congrArg (c :: ·) List.takeWhile_append_dropWhile
      have bytes : front.byteLength + c.utf8Size + Text.byteLength (rest.takeWhile isBlank) =
          front.byteLength + Text.byteLength (c :: rest.takeWhile isBlank) :=
        Nat.add_assoc _ _ _
      rw [if_pos begins, bytes]
      exact ⟨_, _, passed.symm, List.cons_ne_nil c _, rfl, lexAnswer_gap (ofText_gap begins rest)⟩
    rw [if_neg begins]
    by_cases punctuation : isPunctuation c = true
    · rw [if_pos punctuation]
      exact .char (lexAnswer_gap (ofText_punctuation punctuation rest))
    rw [if_neg punctuation]
    by_cases call : nowCall <+: c :: rest
    · obtain ⟨after, whole⟩ := call
      rw [← whole, if_pos (List.prefix_append nowCall after)]
      refine ⟨nowCall, after, rfl, by decide, rfl, ?_⟩
      exact lexAnswer_push (by decide) rfl (ofText_call after)
    · have plain : isDelimiter c = false := by simp [isDelimiter, begins, punctuation]
      rw [if_neg call]
      exact .char (lexAnswer_extend (ofText_word quote plain call))

/-- The loop finds the tokens of a text, or its first literal that stays open. -/
theorem lexScan_run (text : Text) : (lexScan text).run? text 0 {} = some (tokens text) := by
  have found : LexState.foundWith {} (ofText text) = (ofText text).filterMap (·.token?) :=
    LexState.foundWith_of_complete rfl (ofText text)
  rw [(lexScan_answers text).run?_zero, lexAnswer, found, tokens]
  cases lexed : tokensFrom 0 (ofText text) with
  | error cause => rfl
  | ok found =>
    rw [(tokensFrom_eq_ok_iff.mp lexed).2]
    rfl

/-! ## All scans -/

/-- At every boundary of a text a region ends behind it at a boundary, with the text when no quote
closes it, and a pattern matches up to a boundary, behind the characters that agree with it. So the
search, the split, the scan for spans and the loop over lexemes move from boundary to boundary up to
the end of the text unless they break off, and come to what the text holds. Only the search, at a
match, and the loop over lexemes, at a literal that stays open, ever break off. -/
theorem scans_keep_to_boundaries (style : QuoteStyle) (text : Text) :
    (∀ position, text.IsBoundary position → position < text.byteLength →
      (∀ region, style.regionAt? text position = some region →
        position < region.stop ∧ region.stop ≤ text.byteLength ∧ text.IsBoundary region.stop ∧
          (region.terminated = false → region.stop = text.byteLength)) ∧
      ∀ (letterCase : LetterCase) (pattern : Text) (stop : Nat),
        (letterCase.matchAt? text position pattern = some stop ↔
          ∃ matched, text.Slice position stop matched ∧ letterCase.Agrees matched pattern) ∧
        (letterCase.matchAt? text position pattern = some stop → text.IsBoundary stop)) ∧
    (∀ pattern, (style.searchScan pattern text).IsSafe text 0 () ∧
      (style.searchScan pattern text).run? text 0 () =
        some (if style.occurs pattern text then .error () else .ok ())) ∧
    (∀ token options, (style.splitScan token options text).IsSafe text 0 {} ∧
      (style.splitScan token options text).run? text 0 {} =
        some (.ok (style.splitOn token options text))) ∧
    ((style.spanScan text).IsSafe text 0 {} ∧
      (style.spanScan text).run? text 0 {} = some (.ok ((style.locatedSpans text).map rangeOf))) ∧
    ((lexScan text).IsSafe text 0 {} ∧ (lexScan text).run? text 0 {} = some (tokens text)) ∧
    ∀ start, text.IsBoundary start → blankScan.IsSafe text start () := by
  have begins : text.IsBoundary 0 := Text.isBoundary_zero text
  refine ⟨?_, ?_, ?_, ?_, ?_, ?_⟩
  · intro position boundary _
    exact ⟨fun _ => regionAt?_stop boundary, fun _ _ _ =>
      ⟨LetterCase.matchAt?_eq_some_iff boundary, LetterCase.isBoundary_of_matchAt? boundary⟩⟩
  · intro pattern
    have answers := style.searchScan_answers pattern text
    exact ⟨answers.isSafe begins (), answers.run?_zero ()⟩
  · intro token options
    exact ⟨(style.splitScan_answers token options text).isSafe begins {},
      style.splitScan_run token options text⟩
  · exact ⟨(style.spanScan_answers text).isSafe begins {}, style.spanScan_run text⟩
  · exact ⟨(lexScan_answers text).isSafe begins {}, lexScan_run text⟩
  · intro start boundary
    exact (blankScan_answers text).isSafe boundary ()

/-- A region may close with a quote of fewer bytes than its own, and a match may have more bytes
than its pattern. -/
theorem scans_keep_to_boundaries_long_s :
    QuoteStyle.regionAt? { quotes := ['s'] } "éſ¢S;x".toList 2 = some ⟨7, true⟩ ∧
      2 < 7 ∧ 7 ≤ Text.byteLength "éſ¢S;x".toList ∧ Text.IsBoundary "éſ¢S;x".toList 7 ∧
      LetterCase.matchAt? .insensitive "éſ¢S;x".toList 2 ['S'] = some 4 ∧
      Text.IsBoundary "éſ¢S;x".toList 4 := by
  have boundary : Text.IsBoundary "éſ¢S;x".toList 2 := ⟨['é'], "ſ¢S;x".toList, rfl, by decide⟩
  have inside : 2 < Text.byteLength "éſ¢S;x".toList := by decide +kernel
  have region : QuoteStyle.regionAt? { quotes := ['s'] } "éſ¢S;x".toList 2 = some ⟨7, true⟩ := by
    decide +kernel
  have here : LetterCase.matchAt? .insensitive "éſ¢S;x".toList 2 ['S'] = some 4 := by
    decide +kernel
  obtain ⟨found, -⟩ := scans_keep_to_boundaries { quotes := ['s'] } "éſ¢S;x".toList
  obtain ⟨regions, matched⟩ := found 2 boundary inside
  obtain ⟨behind, within, ends, -⟩ := regions ⟨7, true⟩ region
  exact ⟨region, behind, within, ends, here, (matched .insensitive ['S'] 4).2 here⟩

end QuotedText.Sql
