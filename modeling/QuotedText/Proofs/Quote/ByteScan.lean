import QuotedText.Proofs.Quote.Search
import QuotedText.Proofs.Quote.Split
import QuotedText.Proofs.Text.ByteScan

/-!
# Quotes and patterns by byte position

Regions and matches can be found at a byte position of a text that is kept whole. At a boundary they
are those at the head of the text behind it (`QuoteStyle.regionAt?_append`,
`LetterCase.matchAt?_append`), so both end at a boundary, whatever the widths of the characters that
agree. The search, the split and the spans as loops over a byte position come to the same as over
the text that is left (`QuoteStyle.searchScan_answers`, `QuoteStyle.splitScan_answers`,
`QuoteStyle.spanScan_answers`).
-/

namespace QuotedText

/-- Where a region ends. -/
structure RegionEnd where
  /-- The byte position behind the region. -/
  stop : Nat
  /-- Whether a closing quote was found. -/
  terminated : Bool
deriving DecidableEq, Repr

/-! ## Matches -/

namespace LetterCase

variable {letterCase : LetterCase}

/-- The byte position behind the characters at the head of a text that agree with `pattern`, when
the text starts at `position`. -/
def matchEnd? (letterCase : LetterCase) (position : Nat) : Text → Text → Option Nat
  | [], _ => some position
  | _ :: _, [] => none
  | p :: pattern, c :: text =>
    if letterCase.same c p then matchEnd? letterCase (position + c.utf8Size) pattern text else none

/-- The byte position behind the match of `pattern` at a byte position. -/
def matchAt? (letterCase : LetterCase) (text : Text) (position : Nat) (pattern : Text) :
    Option Nat :=
  (text.behind? position).bind (letterCase.matchEnd? position pattern)

/-- A match ends behind the characters that agree, which take up their own bytes and not those of
the pattern. -/
theorem matchEnd?_eq (position : Nat) (pattern text : Text) :
    letterCase.matchEnd? position pattern text =
      (letterCase.match? pattern text).map fun read => position + read.1.byteLength := by
  induction pattern generalizing position text with
  | nil => rfl
  | cons p pattern ih =>
    cases text with
    | nil => rfl
    | cons c text =>
      rw [matchEnd?, match?]
      split
      · rw [ih, Option.map_map]
        congr 1
        funext read
        exact Nat.add_assoc position c.utf8Size read.1.byteLength
      · rfl

/-- A match at a boundary is one at the head of the text behind it. -/
theorem matchAt?_append (front back pattern : Text) :
    letterCase.matchAt? (front ++ back) front.byteLength pattern =
      (letterCase.match? pattern back).map fun read => front.byteLength + read.1.byteLength := by
  rw [matchAt?, Text.behind?_append, Option.bind_some, matchEnd?_eq]

/-- At a boundary a pattern matches up to a position when the text in between agrees with it. -/
theorem matchAt?_eq_some_iff {text pattern : Text} {position stop : Nat}
    (boundary : text.IsBoundary position) :
    letterCase.matchAt? text position pattern = some stop ↔
      ∃ matched, text.Slice position stop matched ∧ letterCase.Agrees matched pattern := by
  obtain ⟨front, back, rfl, rfl⟩ := boundary
  rw [matchAt?_append, Option.map_eq_some_iff]
  constructor
  · rintro ⟨⟨matched, rest⟩, found, rfl⟩
    obtain ⟨rfl, agrees⟩ := match?_eq_some_iff.mp found
    exact ⟨matched, ⟨front, rest, (List.append_assoc front matched rest).symm, rfl, rfl⟩, agrees⟩
  · rintro ⟨matched, ⟨front', rest, whole, bytes, rfl⟩, agrees⟩
    rw [List.append_assoc] at whole
    obtain ⟨-, rfl⟩ := Text.eq_of_byteLength_eq whole bytes.symm
    exact ⟨(matched, rest), match?_eq_some_iff.mpr ⟨rfl, agrees⟩, rfl⟩

/-- A match at a boundary ends at a boundary. -/
theorem isBoundary_of_matchAt? {text pattern : Text} {position stop : Nat}
    (boundary : text.IsBoundary position)
    (found : letterCase.matchAt? text position pattern = some stop) : text.IsBoundary stop := by
  obtain ⟨matched, ⟨front, back, rfl, rfl, rfl⟩, -⟩ := (matchAt?_eq_some_iff boundary).mp found
  exact ⟨front ++ matched, back, rfl, Text.byteLength_append front matched⟩

end LetterCase

namespace QuoteStyle

variable {style : QuoteStyle}

/-! ## Regions -/

/-- The byte position behind the quote that closes a region, found in the characters behind its
opening quote and their positions. -/
def closingEnd? (style : QuoteStyle) (opener : Char) : List (Nat × Char) → Option Nat
  | [] => none
  | (offset, c) :: rest =>
    if style.closes opener c then
      match style.escape, rest with
      | .doubled, (_, d) :: rest' =>
        if style.closes opener d then closingEnd? style opener rest'
        else some (offset + c.utf8Size)
      | _, _ => some (offset + c.utf8Size)
    else closingEnd? style opener rest

/-- Where the region ends that a quote at a byte position opens, if a quote stands there. -/
def regionAt? (style : QuoteStyle) (text : Text) (position : Nat) : Option RegionEnd :=
  match (text.behind? position).map (Text.charPositions 0) with
  | some ((_, opener) :: rest) =>
    if style.isQuote opener then
      match style.closingEnd? opener rest with
      | some offset => some ⟨position + offset, true⟩
      | none => some ⟨text.byteLength, false⟩
    else none
  | _ => none

/-- A region closes behind its body. -/
theorem closingEnd?_eq (opener : Char) (start : Nat) (text : Text) :
    style.closingEnd? opener (Text.charPositions start text) =
      (style.closing? opener text).map fun read => start + read.1.byteLength := by
  fun_induction closing? style opener text generalizing start with
  | case1 => rfl
  | case2 c first d rest doubled second ih =>
    rw [Text.charPositions, Text.charPositions, closingEnd?.eq_def]
    simp only [first, doubled, second, if_true, ih, Option.map_map]
    congr 1
    funext read
    simp [Nat.add_assoc]
  | case3 c first d rest doubled second =>
    rw [Text.charPositions, Text.charPositions, closingEnd?.eq_def]
    simp [first, doubled, second]
  | case4 c rest first single =>
    rw [Text.charPositions, closingEnd?.eq_def]
    cases rest with
    | nil => simp [Text.charPositions, first]
    | cons d rest =>
      have escape : style.escape ≠ .doubled := fun doubled => single d rest doubled rfl
      simp [Text.charPositions, first, escape]
  | case5 c rest other ih =>
    rw [Text.charPositions, closingEnd?.eq_def]
    simp only [other, Bool.false_eq_true, if_false, ih, Option.map_map]
    congr 1
    funext read
    simp [Nat.add_assoc]

/-- A region without a closing quote goes up to the end of the text. -/
theorem rest_eq_nil_of_open {text : Text} {region : Region}
    (found : style.region? text = some region) (isOpen : region.terminated = false) :
    region.rest = [] := by
  unfold region? at found
  split at found
  · contradiction
  · split at found
    · split at found <;> (obtain rfl := Option.some.inj found)
      · contradiction
      · rfl
    · contradiction

/-- A region at a boundary is one at the head of the text behind it. -/
theorem regionAt?_append (front back : Text) :
    style.regionAt? (front ++ back) front.byteLength =
      (style.region? back).map fun region =>
        ⟨front.byteLength + region.text.byteLength, region.terminated⟩ := by
  rw [regionAt?, Text.behind?_append, Option.map_some]
  cases back with
  | nil => rfl
  | cons opener rest =>
    rw [Text.charPositions, region?]
    simp only [closingEnd?_eq]
    split
    · cases style.closing? opener rest with
      | none => simp
      | some found => simp
    · rfl

/-- A region at a boundary ends behind it at a boundary, and with the text when no quote closes
it. -/
theorem regionAt?_stop {text : Text} {position : Nat} {region : RegionEnd}
    (boundary : text.IsBoundary position) (found : style.regionAt? text position = some region) :
    position < region.stop ∧ region.stop ≤ text.byteLength ∧ text.IsBoundary region.stop ∧
      (region.terminated = false → region.stop = text.byteLength) := by
  obtain ⟨front, back, rfl, rfl⟩ := boundary
  rw [regionAt?_append, Option.map_eq_some_iff] at found
  obtain ⟨read, isRegion, rfl⟩ := found
  have split : front ++ back = (front ++ read.text) ++ read.rest := by
    rw [List.append_assoc, region?_append isRegion]
  have bytes : (front ++ read.text).byteLength = front.byteLength + read.text.byteLength :=
    Text.byteLength_append front read.text
  have forward := Text.byteLength_pos (region?_text_ne_nil isRegion)
  refine ⟨Nat.lt_add_of_pos_right forward, ?_, ⟨front ++ read.text, read.rest, split, bytes⟩, ?_⟩
  · rw [split, Text.byteLength_append, bytes]
    exact Nat.le_add_right _ _
  · intro isOpen
    rw [split, rest_eq_nil_of_open isRegion isOpen, List.append_nil, bytes]

/-- A round that passes over a region leaves the answer to the text behind it. -/
theorem leadsTo_region {State Early Result : Type}
    {answer : Nat → State → Text → Except Early Result} {position : Nat} {left : Text}
    {region : Region} {state : State} {expected : Except Early Result}
    (found : style.region? left = some region)
    (later : expected = answer (position + region.text.byteLength) state region.rest) :
    (ByteScan.Round.goOn (position + region.text.byteLength) state).LeadsTo answer position left
      expected :=
  ⟨region.text, region.rest, (region?_append found).symm, region?_text_ne_nil found, rfl, later⟩

/-! ## The search -/

/-- The search for a pattern by byte position, which breaks off at the first match. -/
def searchScan (style : QuoteStyle) (pattern : Pattern) (text : Text) :
    ByteScan Unit Unit Unit where
  round? position c _ :=
    match style.regionAt? text position with
    | some region => some (.goOn region.stop ())
    | none =>
      match style.letterCase.matchAt? text position pattern.text with
      | some _ => some (.breakOff ())
      | none => some (.goOn (position + c.utf8Size) ())
  finish _ _ := ()

/-- The search by byte position breaks off when the pattern occurs in the text that is left. -/
theorem searchScan_answers (style : QuoteStyle) (pattern : Pattern) (text : Text) :
    (style.searchScan pattern text).Answers text fun _ _ left =>
      if style.occurs pattern left then .error () else .ok () where
  finish _ := by
    rw [occurs]
    rfl
  round := by
    rintro front c rest state rfl
    simp only [searchScan, regionAt?_append, LetterCase.matchAt?_append]
    cases found : style.region? (c :: rest) with
    | some region =>
      refine ⟨_, rfl, leadsTo_region found ?_⟩
      rw [occurs_region found]
    | none =>
      rw [occurs_unquoted (not_isQuote_of_region? found), Pattern.match?]
      cases here : style.letterCase.match? pattern.text (c :: rest) with
      | some read => exact ⟨_, rfl, rfl⟩
      | none => exact ⟨_, rfl, .char rfl⟩

/-! ## The split -/

/-- What a split by byte position has read. -/
structure SplitState where
  /-- The text of the segment that is not complete. -/
  buffer : Text := []
  /-- The segments that are complete. -/
  segments : List Text := []

/-- The state with more text in the segment that is not complete. -/
def SplitState.append (state : SplitState) (text : Text) : SplitState :=
  { state with buffer := state.buffer ++ text }

/-- No text changes nothing. -/
theorem SplitState.append_nil (state : SplitState) : state.append [] = state := by
  rw [append, List.append_nil]

/-- Completes a segment if it is worth reporting. -/
def SplitState.flush (state : SplitState) (trimmed : Bool) : SplitState :=
  if state.buffer ≠ [] ∧ (trimmed = false ∨ state.buffer.isBlankText = false) then
    { buffer := [], segments := state.segments ++ [state.buffer] }
  else state

/-- The split on a token by byte position. -/
def splitScan (style : QuoteStyle) (token : Pattern) (options : SplitOptions) (text : Text) :
    ByteScan SplitState Empty (List Text) where
  round? position c state :=
    match style.regionAt? text position with
    | some region =>
      (text.slice? position region.stop).map fun quoted => .goOn region.stop (state.append quoted)
    | none =>
      match options.tokenCase.matchAt? text position token.text with
      | some stop =>
        if options.includeToken then
          (text.slice? position stop).map fun matched =>
            .goOn stop ((state.append matched).flush options.trimmed)
        else some (.goOn stop (state.flush options.trimmed))
      | none => some (.goOn (position + c.utf8Size) (state.append [c]))
  finish _ state := (state.flush options.trimmed).segments

/-- The segments reported when a segment that begins with `buffer` goes on with some pieces. -/
def reported (trimmed : Bool) (buffer : Text) (pieces : List Text) : List Text :=
  if trimmed then holdBlanks buffer pieces
  else (pieces.modifyHead (buffer ++ ·)).filter (· ≠ [])

/-- Text at the head of the first piece may as well be read already. -/
theorem reported_modifyHead (trimmed : Bool) (buffer text : Text) (pieces : List Text) :
    reported trimmed buffer (pieces.modifyHead (text ++ ·)) =
      reported trimmed (buffer ++ text) pieces := by
  cases pieces with
  | nil => cases trimmed <;> rfl
  | cons piece more => simp [reported, holdBlanks]

/-- No segments are reported of no pieces. -/
theorem reported_nil (trimmed : Bool) (buffer : Text) : reported trimmed buffer [] = [] := by
  cases trimmed <;> rfl

/-- Completing a segment leaves the reports that follow. -/
theorem segments_flush_reported (state : SplitState) (trimmed : Bool) (piece : Text)
    (more : List Text) :
    ((state.append piece).flush trimmed).segments ++
        reported trimmed ((state.append piece).flush trimmed).buffer more =
      state.segments ++ reported trimmed state.buffer (piece :: more) := by
  cases trimmed with
  | true =>
    cases blank : (state.buffer ++ piece).isBlankText with
    | true => simp [SplitState.append, SplitState.flush, reported, holdBlanks, blank]
    | false =>
      have nonempty : state.buffer ++ piece ≠ [] := by
        intro empty
        rw [empty] at blank
        contradiction
      simp [SplitState.append, SplitState.flush, reported, holdBlanks, blank, nonempty]
  | false =>
    have unchanged : more.modifyHead (fun piece => piece) = more := by cases more <;> rfl
    by_cases empty : state.buffer ++ piece = []
    · simp [SplitState.append, SplitState.flush, reported, empty, unchanged]
    · simp [SplitState.append, SplitState.flush, reported, empty, unchanged]

/-- The split by byte position reports the pieces of the text that is left, the first of which
goes on from the segment that is not complete. -/
theorem splitScan_answers (style : QuoteStyle) (token : Pattern) (options : SplitOptions)
    (text : Text) :
    (style.splitScan token options text).Answers text fun _ state left =>
      .ok (state.segments ++
        reported options.trimmed state.buffer (style.pieces token options left)) where
  finish state := by
    have flushed := segments_flush_reported state options.trimmed [] []
    rw [SplitState.append_nil, reported_nil, List.append_nil] at flushed
    rw [pieces, ← flushed]
    rfl
  round := by
    rintro front c rest state rfl
    simp only [splitScan, regionAt?_append, LetterCase.matchAt?_append]
    cases found : style.region? (c :: rest) with
    | some region =>
      have slice := Text.slice?_append front region.text region.rest
      rw [region?_append found] at slice
      simp only [Option.map_some, slice]
      refine ⟨_, rfl, leadsTo_region found ?_⟩
      rw [pieces_region found, reported_modifyHead]
      rfl
    | none =>
      cases here : options.tokenCase.match? token.text (c :: rest) with
      | some read =>
        obtain ⟨matched, after⟩ := read
        obtain ⟨whole, agrees⟩ := LetterCase.match?_eq_some_iff.mp here
        have slice := Text.slice?_append front matched after
        rw [← whole] at slice
        rw [pieces_of_match? found here, ← segments_flush_reported]
        cases kept : options.includeToken with
        | true =>
          simp only [Option.map_some, Option.map_none, slice, if_true]
          exact ⟨_, rfl, matched, after, whole, agrees.ne_nil token.nonempty, rfl, rfl⟩
        | false =>
          simp only [Option.map_some, Option.map_none, Bool.false_eq_true, if_false,
            SplitState.append_nil]
          exact ⟨_, rfl, matched, after, whole, agrees.ne_nil token.nonempty, rfl, rfl⟩
      | none =>
        have unmatched : ¬options.tokenCase.MatchesHead token.text (c :: rest) :=
          Pattern.not_matchesHead_of_match? here
        have passed : reported options.trimmed state.buffer
            ((style.pieces token options rest).modifyHead (c :: ·)) =
              reported options.trimmed (state.buffer ++ [c]) (style.pieces token options rest) :=
          reported_modifyHead options.trimmed state.buffer [c] _
        refine ⟨_, rfl, .char ?_⟩
        rw [pieces_unmatched (not_isQuote_of_region? found) unmatched, passed]
        rfl

/-- The split by byte position reports the segments of a text. -/
theorem splitScan_run (style : QuoteStyle) (token : Pattern) (options : SplitOptions)
    (text : Text) :
    (style.splitScan token options text).run? text 0 {} =
      some (.ok (style.splitOn token options text)) := by
  have whole : reported options.trimmed [] (style.pieces token options text) =
      style.splitOn token options text := by
    obtain ⟨piece, more, pieces⟩ :=
      List.exists_cons_of_ne_nil (style.pieces_ne_nil token options text)
    rw [reported, splitOn, pieces]
    rfl
  rw [(style.splitScan_answers token options text).run?_zero, ← whole]
  rfl

/-! ## The spans -/

/-- The kind of a span and its byte positions. -/
structure SpanRange where
  /-- What the span is. -/
  kind : SpanKind
  /-- The number of bytes before the span. -/
  start : Nat
  /-- The number of bytes before and in the span. -/
  stop : Nat
deriving DecidableEq, Repr

/-- The range of a span in its text. -/
def rangeOf (located : Span.Located) : SpanRange :=
  ⟨located.span.kind, located.start, located.stop⟩

/-- The range of the unquoted text between two positions, if there is any. -/
def unquotedRange (start position : Nat) : List SpanRange :=
  if start < position then [⟨.unquoted, start, position⟩] else []

/-- Between a position and itself there is no text. -/
@[simp] theorem unquotedRange_self (position : Nat) : unquotedRange position position = [] :=
  if_neg (Nat.lt_irrefl position)

/-- What a scan for spans has read. -/
structure SpanState where
  /-- Where the text begins that belongs to no range yet. -/
  start : Nat := 0
  /-- The ranges of the text before that. -/
  ranges : List SpanRange := []

/-- The scan for the spans of a text by byte position. -/
def spanScan (style : QuoteStyle) (text : Text) : ByteScan SpanState Empty (List SpanRange) where
  round? position c state :=
    match style.regionAt? text position with
    | none => some (.goOn (position + c.utf8Size) state)
    | some region =>
      let kind := if region.terminated then .quoted else .unterminated
      some (.goOn region.stop
        { start := region.stop
          ranges := state.ranges ++ unquotedRange state.start position ++
            [⟨kind, position, region.stop⟩] })
  finish _ state := state.ranges ++ unquotedRange state.start text.byteLength

/-- The ranges of spans that begin at `position`, when the text from `start` on is unquoted and
belongs to no range yet. -/
def rangesFrom (start position : Nat) : List Span → List SpanRange
  | [] => unquotedRange start position
  | span :: more =>
    let stop := position + span.text.byteLength
    if span.kind = .unquoted then rangesFrom start stop more
    else unquotedRange start position ++ ⟨span.kind, position, stop⟩ :: rangesFrom stop stop more

/-- An unquoted character belongs to the unquoted text before it. -/
theorem rangesFrom_consUnquoted (start position : Nat) (c : Char) (spans : List Span) :
    rangesFrom start position (Span.consUnquoted c spans) =
      rangesFrom start (position + c.utf8Size) spans := by
  unfold Span.consUnquoted
  split
  · simp [rangesFrom, Nat.add_assoc]
  · simp [rangesFrom]

/-- Unquoted text has no range of its own in front of a region. -/
theorem rangesFrom_of_region {spans : List Span} (start position : Nat)
    (region : ∀ span ∈ spans.head?, span.kind ≠ .unquoted) :
    rangesFrom start position spans =
      unquotedRange start position ++ rangesFrom position position spans := by
  cases spans with
  | nil => rw [rangesFrom, rangesFrom, unquotedRange_self, List.append_nil]
  | cons span more =>
    have kind : span.kind ≠ .unquoted := region span rfl
    simp only [rangesFrom, if_neg kind, unquotedRange_self, List.nil_append]

/-- Well-cut spans have the ranges of their positions. -/
theorem WellCut.rangesFrom_eq {spans : List Span} (cut : style.WellCut spans) (position : Nat) :
    rangesFrom position position spans = (Span.located position spans).map rangeOf := by
  induction cut generalizing position with
  | nil => exact unquotedRange_self position
  | unquoted nonempty _ maximal _ ih =>
    have forward := Text.byteLength_pos nonempty
    rw [rangesFrom, if_pos rfl, rangesFrom_of_region _ _ maximal, ih]
    simp [unquotedRange, Span.located, rangeOf, forward]
  | quoted _ _ _ _ _ ih => simp [rangesFrom, Span.located, rangeOf, ih]
  | unterminated => simp [rangesFrom, Span.located, rangeOf]

/-- The scan for spans finds the ranges of the spans of the text that is left, the first of which
goes on from the text that belongs to no range yet. -/
theorem spanScan_answers (style : QuoteStyle) (text : Text) :
    (style.spanScan text).Answers text fun position state left =>
      .ok (state.ranges ++ rangesFrom state.start position (style.spans left)) where
  finish state := by
    rw [spans_nil]
    rfl
  round := by
    rintro front c rest state rfl
    simp only [spanScan, regionAt?_append]
    cases found : style.region? (c :: rest) with
    | some region =>
      have kind : region.span.kind ≠ .unquoted := by
        unfold Region.span
        split <;> simp
      refine ⟨_, rfl, leadsTo_region found ?_⟩
      rw [spans_region found, rangesFrom, if_neg kind]
      simp [Region.span]
    | none =>
      refine ⟨_, rfl, .char ?_⟩
      rw [spans_unquoted (not_isQuote_of_region? found), rangesFrom_consUnquoted]

/-- The scan for spans finds the ranges of the spans of a text. -/
theorem spanScan_run (style : QuoteStyle) (text : Text) :
    (style.spanScan text).run? text 0 {} = some (.ok ((style.locatedSpans text).map rangeOf)) := by
  rw [(style.spanScan_answers text).run?_zero, locatedSpans,
    ← (style.wellCut_spans text).rangesFrom_eq]
  rfl

end QuoteStyle

end QuotedText
