import QuotedText.Proofs.Quote.Search
import QuotedText.Proofs.Quote.Split

/-!
# Runs of regions

Where a doubled quote leaves a region open under one escape, it closes the region under the other
and opens the next one at once. So a region under the doubled escape is a run of regions without it,
and both are read up to the same place (`QuoteStyle.exists_run_closed`,
`QuoteStyle.exists_run_open`). A scan that only passes over regions does not tell the two escapes
apart (`QuoteStyle.occurs_escape`, `QuoteStyle.pieces_escape`).
-/

namespace QuotedText

namespace QuoteStyle

variable {style : QuoteStyle}

/-- The style with the same quotes and another escape. -/
def withEscape (style : QuoteStyle) (escape : Escape) : QuoteStyle :=
  { style with escape }

@[simp] theorem isQuote_withEscape (style : QuoteStyle) (escape : Escape) (c : Char) :
    (style.withEscape escape).isQuote c = style.isQuote c := rfl

@[simp] theorem closes_withEscape (style : QuoteStyle) (escape : Escape) (opener c : Char) :
    (style.withEscape escape).closes opener c = style.closes opener c := rfl

/-- Quotes that are the same letter close the same regions. -/
theorem closes_congr {p q : Char} (same : style.closes q p) (c : Char) :
    style.closes p c = style.closes q c :=
  closes_of_same same (LetterCase.same_refl style.letterCase c)

/-- What closes a region can open one. -/
theorem isQuote_of_closes {p q : Char} (quote : style.isQuote q) (same : style.closes q p) :
    style.isQuote p := by
  rwa [isQuote_congr same]

/-- Text without the quote may stand in a region, whatever the escape. -/
theorem inside_of_plain {opener : Char} {text : Text}
    (plain : ∀ c ∈ text, style.closes opener c = false) : style.Inside opener text := by
  induction text with
  | nil => exact .nil
  | cons c rest ih =>
    exact .plain (plain c List.mem_cons_self) (ih fun d member =>
      plain d (List.mem_cons_of_mem c member))

/-! ## Runs of regions -/

/-- Regions that one quote opens, all but the last of them closed, and the region they make up. -/
inductive Run (style : QuoteStyle) (opener : Char) : List Span → Span → Prop
  /-- A region makes up itself. -/
  | one {kind : SpanKind} {c : Char} {body : Text} (region : kind ≠ .unquoted)
      (same : style.closes opener c) : Run style opener [⟨kind, c :: body⟩] ⟨kind, c :: body⟩
  /-- A closed region before a run joins the region that the run makes up. -/
  | cons {c : Char} {body : Text} {run : List Span} {whole : Span}
      (same : style.closes opener c) (more : Run style opener run whole) :
      Run style opener (⟨.quoted, c :: body⟩ :: run) ⟨whole.kind, c :: (body ++ whole.text)⟩

/-- Regions that are read one after the other from the head of a text, and what follows them. -/
inductive Reads (style : QuoteStyle) : Text → List Span → Text → Prop
  /-- Nothing has to be read. -/
  | nil {text : Text} : Reads style text [] text
  /-- The first region is read and then the others. -/
  | cons {text rest : Text} {region : Region} {run : List Span}
      (found : style.region? text = some region) (more : Reads style region.rest run rest) :
      Reads style text (region.span :: run) rest

/-- Regions at the head of a text are its first spans. -/
theorem Reads.spans {text rest : Text} {run : List Span} (reads : style.Reads text run rest) :
    style.spans text = run ++ style.spans rest := by
  induction reads with
  | nil => rfl
  | cons found _ ih => rw [spans_region found, ih, List.cons_append]

/-- Without escape, a region goes up to the next quote of the same letter. -/
theorem region?_none {q o close : Char} {before : Text} (quote : style.isQuote q)
    (same : style.closes q o) (plain : ∀ c ∈ before, style.closes q c = false)
    (closes : style.closes q close) (rest : Text) :
    (style.withEscape .none).region? (o :: (before ++ close :: rest)) =
      some ⟨o :: (before ++ [close]), rest, true⟩ := by
  have inside : (style.withEscape .none).Inside o before :=
    inside_of_plain fun c member => (closes_congr same c).trans (plain c member)
  exact region?_closed (isQuote_of_closes quote same) inside
    ((closes_congr same close).trans closes) nofun

/-- A region of the doubled escape with the text `body` behind its opening quote is a run of
regions without escape, when its end is. The text `before` is what has been read of the first
region of the run. -/
theorem exists_run_of_inside {q : Char} {body : Text} {kind : SpanKind} (ending rest : Text)
    (quote : style.isQuote q) (inside : (style.withEscape .doubled).Inside q body)
    (last : ∀ o before, style.closes q o → (∀ c ∈ before, style.closes q c = false) →
      ∃ run, style.Run q run ⟨kind, o :: (before ++ ending)⟩ ∧
        (style.withEscape .none).Reads (o :: (before ++ (ending ++ rest))) run rest)
    (o : Char) (before : Text) (same : style.closes q o)
    (plain : ∀ c ∈ before, style.closes q c = false) :
    ∃ run, style.Run q run ⟨kind, o :: (before ++ (body ++ ending))⟩ ∧
      (style.withEscape .none).Reads (o :: (before ++ (body ++ (ending ++ rest)))) run rest := by
  induction inside generalizing o before with
  | nil => exact last o before same plain
  | @plain c body other _ ih =>
    have plain' : ∀ d ∈ before ++ [c], style.closes q d = false := by
      intro d member
      rcases List.mem_append.mp member with member | member
      · exact plain d member
      · rwa [List.mem_singleton.mp member]
    have found := ih o (before ++ [c]) same plain'
    rwa [List.append_assoc, List.append_assoc, List.singleton_append, List.singleton_append]
      at found
  | @pair c d body _ first second _ ih =>
    -- The first half of a doubled quote closes a region and the second half opens the next one.
    obtain ⟨run, isRun, reads⟩ := ih d [] second (by simp)
    refine ⟨⟨.quoted, o :: (before ++ [c])⟩ :: run, ?_, ?_⟩
    · have joined : style.Run q (⟨.quoted, o :: (before ++ [c])⟩ :: run)
          ⟨kind, o :: (before ++ [c] ++ d :: ([] ++ (body ++ ending)))⟩ := .cons same isRun
      simpa using joined
    · exact .cons (region?_none quote same plain first (d :: (body ++ (ending ++ rest)))) reads

/-- A closed region of the doubled escape is a run of regions without escape. -/
theorem exists_run_closed {q close : Char} {body : Text} (quote : style.isQuote q)
    (inside : (style.withEscape .doubled).Inside q body) (closes : style.closes q close)
    (rest : Text) :
    ∃ run, style.Run q run ⟨.quoted, q :: (body ++ [close])⟩ ∧
      (style.withEscape .none).Reads (q :: (body ++ close :: rest)) run rest := by
  refine exists_run_of_inside [close] rest quote inside ?_ q [] (LetterCase.same_refl _ _)
    (by simp)
  intro o before same plain
  exact ⟨_, .one (by simp) same, .cons (region?_none quote same plain closes rest) .nil⟩

/-- A region of the doubled escape that is open to the end of its text is a run of regions without
escape of which the last is open. -/
theorem exists_run_open {q : Char} {body : Text} (quote : style.isQuote q)
    (inside : (style.withEscape .doubled).Inside q body) :
    ∃ run, style.Run q run ⟨.unterminated, q :: body⟩ ∧
      (style.withEscape .none).Reads (q :: body) run [] := by
  have found : ∃ run, style.Run q run ⟨.unterminated, q :: ([] ++ (body ++ []))⟩ ∧
      (style.withEscape .none).Reads (q :: ([] ++ (body ++ ([] ++ [])))) run [] := by
    refine exists_run_of_inside [] [] quote inside ?_ q [] (LetterCase.same_refl _ _) (by simp)
    intro o before same plain
    have insideNone : (style.withEscape .none).Inside o before :=
      inside_of_plain fun c member => (closes_congr same c).trans (plain c member)
    have opens : (style.withEscape .none).isQuote o := isQuote_of_closes quote same
    have read := region?_open opens insideNone
    refine ⟨_, .one (by simp) same, ?_⟩
    simpa [Region.span] using Reads.cons read .nil
  simpa using found

/-- A run has the text of the region it makes up. -/
theorem Run.texts {q : Char} {run : List Span} {whole : Span} (isRun : style.Run q run whole) :
    Span.texts run = whole.text := by
  induction isRun with
  | one => simp
  | cons _ _ ih => simp [ih]

/-- A region of the doubled escape is read as regions without escape. -/
theorem exists_reads {text : Text} {region : Region}
    (found : (style.withEscape .doubled).region? text = some region) :
    ∃ run, Span.texts run = region.text ∧ (style.withEscape .none).Reads text run region.rest := by
  cases text with
  | nil => contradiction
  | cons q rest =>
    have quote : (style.withEscape .doubled).isQuote q := isQuote_of_region? found
    have quote' : style.isQuote q := quote
    rcases closing?_cases (style.withEscape .doubled) q rest with
      ⟨body, close, after, rfl, inside, closes, ends⟩ | inside
    · obtain rfl := Option.some.inj ((region?_closed quote inside closes ends).symm.trans found)
      obtain ⟨run, isRun, reads⟩ := exists_run_closed quote' inside closes after
      exact ⟨run, isRun.texts, reads⟩
    · obtain rfl := Option.some.inj ((region?_open quote inside).symm.trans found)
      obtain ⟨run, isRun, reads⟩ := exists_run_open quote' inside
      exact ⟨run, isRun.texts, reads⟩

/-! ## Scans -/

/-- A search passes over regions. -/
theorem Reads.occurs {text rest : Text} {run : List Span} (reads : style.Reads text run rest)
    (pattern : Pattern) : style.occurs pattern text = style.occurs pattern rest := by
  induction reads with
  | nil => rfl
  | cons found _ ih => rw [occurs_region found, ih]

/-- A split passes over regions. -/
theorem Reads.pieces {text rest : Text} {run : List Span} (reads : style.Reads text run rest)
    (token : Pattern) (options : SplitOptions) :
    style.pieces token options text =
      (style.pieces token options rest).modifyHead (Span.texts run ++ ·) := by
  induction reads with
  | @nil text => cases style.pieces token options text <;> rfl
  | @cons text rest region run found _ ih =>
    rw [pieces_region found, ih, List.modifyHead_modifyHead, Span.texts_cons]
    congr 1
    funext piece
    exact (List.append_assoc region.text (Span.texts run) piece).symm

/-- A search finds the same under both escapes. -/
theorem occurs_escape (style : QuoteStyle) (pattern : Pattern) (text : Text) :
    (style.withEscape .doubled).occurs pattern text =
      (style.withEscape .none).occurs pattern text := by
  fun_induction QuoteStyle.occurs (style.withEscape .doubled) pattern text with
  | case1 => rw [QuoteStyle.occurs]
  | case2 c rest region found ih =>
    obtain ⟨run, -, reads⟩ := exists_reads found
    rw [ih, reads.occurs]
  | case3 c rest none ih =>
    have plain : (style.withEscape .none).isQuote c = false := by
      simpa using not_isQuote_of_region? none
    rw [occurs_unquoted plain, ih]
    rfl

/-- A split cuts at the same places under both escapes. -/
theorem pieces_escape (style : QuoteStyle) (token : Pattern) (options : SplitOptions)
    (text : Text) :
    (style.withEscape .doubled).pieces token options text =
      (style.withEscape .none).pieces token options text := by
  fun_induction QuoteStyle.pieces (style.withEscape .doubled) token options text with
  | case1 => rw [QuoteStyle.pieces]
  | case2 c rest region found ih =>
    obtain ⟨run, texts, reads⟩ := exists_reads found
    rw [ih, reads.pieces, texts]
  | case3 c rest none matched after found ih =>
    have plain : (style.withEscape .none).isQuote c = false := by
      simpa using not_isQuote_of_region? none
    obtain ⟨whole, agrees⟩ := LetterCase.match?_eq_some_iff.mp found
    rw [ih, whole, pieces_match agrees]
    intro d isHead
    obtain ⟨matched, rfl⟩ := List.head?_eq_some_iff.mp isHead
    rwa [← (List.cons.inj whole).1]
  | case4 c rest none unmatched ih =>
    have plain : (style.withEscape .none).isQuote c = false := by
      simpa using not_isQuote_of_region? none
    rw [pieces_unmatched plain (Pattern.not_matchesHead_of_match? unmatched), ih]

end QuoteStyle

end QuotedText
