import Mathlib.Data.List.Chain
import QuotedText.Proofs.Quote.Cut
import QuotedText.Proofs.Text.Boundary

/-!
# The partition of a text

`QuoteStyle.IsPartition` says of spans with byte positions, without reference to the scan, that
they cut a text as the quote style asks. `QuoteStyle.isPartition_iff` states that the located spans
of a text are such a partition and that there is no other. The positions of a partition determine
its texts (`Span.eq_located`), and its texts are well cut.
-/

namespace QuotedText

namespace Span

/-- Spans follow each other without a gap from one byte position to another. -/
def Contiguous (start stop : Nat) : List Located → Prop
  | [] => start = stop
  | span :: more => span.start = start ∧ Contiguous span.stop stop more

/-- Positions do not change the spans. -/
@[simp] theorem map_span_located (start : Nat) (spans : List Span) :
    (located start spans).map (·.span) = spans := by
  induction spans generalizing start with
  | nil => rfl
  | cons span more ih => simp [located, ih]

/-- Located spans follow each other up to the end of their text. -/
theorem contiguous_located (start : Nat) (spans : List Span) :
    Contiguous start (start + (texts spans).byteLength) (located start spans) := by
  induction spans generalizing start with
  | nil => rfl
  | cons span more ih =>
    refine ⟨rfl, ?_⟩
    rw [texts_cons, Text.byteLength_append, ← Nat.add_assoc]
    exact ih (start + span.text.byteLength)

/-- A located span starts behind the spans before it and stops behind its own text. -/
theorem exists_of_mem_located {start : Nat} {spans : List Span} {span : Located}
    (member : span ∈ located start spans) :
    ∃ before after, spans = before ++ span.span :: after ∧
      span.start = start + (texts before).byteLength ∧
      span.stop = span.start + span.span.text.byteLength := by
  induction spans generalizing start with
  | nil => simp [located] at member
  | cons first more ih =>
    rcases List.mem_cons.mp member with rfl | later
    · exact ⟨[], more, rfl, by simp, rfl⟩
    · obtain ⟨before, after, rfl, startEq, stopEq⟩ := ih later
      refine ⟨first :: before, after, rfl, ?_, stopEq⟩
      rw [startEq, texts_cons, Text.byteLength_append, Nat.add_assoc]

/-- A span between others is located behind them. -/
theorem mem_located (start : Nat) (before after : List Span) (span : Span) :
    ⟨start + (texts before).byteLength,
      start + (texts before).byteLength + span.text.byteLength, span⟩ ∈
      located start (before ++ span :: after) := by
  induction before generalizing start with
  | nil => simp [located]
  | cons first before ih =>
    have later := ih (start + first.text.byteLength)
    rw [Nat.add_assoc start] at later
    simp only [List.cons_append, located, texts_cons, Text.byteLength_append]
    exact List.mem_cons_of_mem _ later

/-- Contiguous spans that hold what stands at their positions are the located spans of their
texts, and these make up the text. -/
theorem eq_located {text front rest : Text} {spans : List Located}
    (whole : text = front ++ rest)
    (contiguous : Contiguous front.byteLength text.byteLength spans)
    (slices : ∀ span ∈ spans, text.Slice span.start span.stop span.span.text) :
    spans = located front.byteLength (spans.map (·.span)) ∧
      rest = texts (spans.map (·.span)) := by
  induction spans generalizing front rest with
  | nil =>
    have bytes : front.byteLength = text.byteLength := contiguous
    rw [whole, Text.byteLength_append] at bytes
    exact ⟨rfl, Text.byteLength_eq_zero.mp (by omega)⟩
  | cons span more ih =>
    obtain ⟨startEq, contiguous⟩ := contiguous
    obtain ⟨before, back, split, beforeEq, stopEq⟩ := slices span List.mem_cons_self
    have same : front ++ rest = before ++ (span.span.text ++ back) := by
      rw [← whole, split, List.append_assoc]
    obtain ⟨rfl, rfl⟩ := Text.eq_of_byteLength_eq same (by omega)
    have stop : span.stop = (front ++ span.span.text).byteLength := by
      rw [Text.byteLength_append]
      omega
    rw [stop] at contiguous
    obtain ⟨moreEq, backEq⟩ := ih split contiguous
      fun later member => slices later (List.mem_cons_of_mem _ member)
    constructor
    · rw [List.map_cons, located, ← Text.byteLength_append, ← moreEq, ← stop, ← startEq]
    · rw [List.map_cons, texts_cons, ← backEq]

end Span

namespace QuoteStyle

variable {style : QuoteStyle}

/-! ## What a well-cut list says of its members -/

/-- What follows the first span of a well-cut list is well cut. -/
theorem WellCut.tail {span : Span} {more : List Span} (cut : style.WellCut (span :: more)) :
    style.WellCut more := by
  cases cut with
  | unquoted _ _ _ cut => exact cut
  | quoted _ _ _ _ cut => exact cut
  | unterminated _ _ => exact .nil

/-- What follows a part of a well-cut list is well cut. -/
theorem WellCut.of_append {before after : List Span} (cut : style.WellCut (before ++ after)) :
    style.WellCut after := by
  induction before with
  | nil => exact cut
  | cons span before ih => exact ih cut.tail

/-- No span of a well-cut list is empty. -/
theorem WellCut.text_ne_nil {span : Span} {more : List Span} (cut : style.WellCut (span :: more)) :
    span.text ≠ [] := by
  cases cut <;> simp_all

/-- No two neighbours in a well-cut list are unquoted. -/
theorem WellCut.isChain {spans : List Span} (cut : style.WellCut spans) :
    spans.IsChain fun a b => ¬(a.kind = .unquoted ∧ b.kind = .unquoted) := by
  induction cut with
  | nil => exact .nil
  | unquoted _ _ maximal _ ih =>
    exact List.isChain_cons.mpr ⟨fun next member both => maximal next member both.2, ih⟩
  | quoted _ _ _ _ _ ih => exact List.isChain_cons.mpr ⟨by simp, ih⟩
  | unterminated _ _ => exact .singleton _

/-- Nothing follows an unterminated span of a well-cut list. -/
theorem WellCut.ne_unterminated {spans : List Span} (cut : style.WellCut spans) :
    ∀ span ∈ spans.dropLast, span.kind ≠ .unterminated := by
  induction cut with
  | nil => simp
  | @unquoted text more _ _ _ _ ih => cases more <;> simp_all
  | @quoted _ _ _ more _ _ _ _ _ ih => cases more <;> simp_all
  | unterminated _ _ => simp

/-- An unterminated span of a well-cut list is the last. -/
theorem WellCut.getLast?_of_unterminated {spans : List Span} {span : Span}
    (cut : style.WellCut spans) (member : span ∈ spans) (unterminated : span.kind = .unterminated) :
    spans.getLast? = some span := by
  obtain ⟨before, last, rfl⟩ :=
    (List.eq_nil_or_concat' spans).resolve_left (List.ne_nil_of_mem member)
  have earlier := cut.ne_unterminated
  rw [List.dropLast_concat] at earlier
  rcases List.mem_append.mp member with inBefore | same
  · exact absurd unterminated (earlier span inBefore)
  · rw [List.mem_singleton.mp same, List.getLast?_concat]

/-! ## Partitions -/

/-- Spans with byte positions cut a text into unquoted text and quoted regions. -/
structure IsPartition (style : QuoteStyle) (text : Text) (spans : List Span.Located) : Prop where
  /-- The spans follow each other from the start of the text to its end. -/
  contiguous : Span.Contiguous 0 text.byteLength spans
  /-- No span is empty. -/
  nonempty : ∀ span ∈ spans, span.start < span.stop
  /-- Every span starts and stops between characters and holds what stands there. -/
  slices : ∀ span ∈ spans, text.Slice span.start span.stop span.span.text
  /-- Unquoted text holds no quote. -/
  plain : ∀ span ∈ spans, span.span.kind = .unquoted →
    ∀ c ∈ span.span.text, style.isQuote c = false
  /-- Unquoted text goes on to a region or to the end of the text. -/
  maximal : spans.IsChain fun a b => ¬(a.span.kind = .unquoted ∧ b.span.kind = .unquoted)
  /-- A quoted region ends with the first quote that is not doubled. -/
  closed : ∀ span ∈ spans, span.span.kind = .quoted →
    ∃ opener body close, span.span.text = opener :: (body ++ [close]) ∧ style.isQuote opener ∧
      style.Inside opener body ∧ style.closes opener close ∧
      (style.escape = .doubled → ∀ (front : Text) c back,
        text = front ++ c :: back → front.byteLength = span.stop →
        style.closes opener c = false)
  /-- Only the last region may be without a closing quote. -/
  last : ∀ span ∈ spans.dropLast, span.span.kind ≠ .unterminated
  /-- A region without a closing quote is open up to its end. -/
  unclosed : ∀ span ∈ spans, span.span.kind = .unterminated →
    ∃ opener body, span.span.text = opener :: body ∧ style.isQuote opener ∧
      style.Inside opener body

/-- A well-cut list with the positions of its spans is a partition. -/
theorem WellCut.isPartition {spans : List Span} (cut : style.WellCut spans) :
    style.IsPartition (Span.texts spans) (Span.located 0 spans) where
  contiguous := by
    have contiguous := Span.contiguous_located 0 spans
    rwa [Nat.zero_add] at contiguous
  nonempty span member := by
    obtain ⟨before, after, rfl, -, stopEq⟩ := Span.exists_of_mem_located member
    have positive := Text.byteLength_pos cut.of_append.text_ne_nil
    omega
  slices span member := by
    obtain ⟨before, after, rfl, startEq, stopEq⟩ := Span.exists_of_mem_located member
    exact ⟨Span.texts before, Span.texts after, by simp [Span.texts], by omega, stopEq.symm⟩
  plain span member kind := by
    obtain ⟨before, after, rfl, -, -⟩ := Span.exists_of_mem_located member
    obtain ⟨start, stop, kind', text⟩ := span
    cases cut.of_append with
    | unquoted _ plain _ _ => exact plain
    | quoted => contradiction
    | unterminated => contradiction
  maximal := by
    rw [← List.isChain_map (fun span : Span.Located => span.span)
      (R := fun a b => ¬(a.kind = .unquoted ∧ b.kind = .unquoted)), Span.map_span_located]
    exact cut.isChain
  closed span member kind := by
    obtain ⟨before, after, rfl, startEq, stopEq⟩ := Span.exists_of_mem_located member
    obtain ⟨start, stop, kind', text⟩ := span
    cases cut.of_append with
    | unquoted => contradiction
    | @quoted opener close body _ quote inside closes ends _ =>
      refine ⟨opener, body, close, rfl, quote, inside, closes, ?_⟩
      intro doubled front c back whole bytes
      have same : Span.texts before ++ (opener :: (body ++ [close])) ++ Span.texts after =
          front ++ c :: back := by
        rw [← whole]
        simp [Span.texts]
      obtain ⟨-, afterEq⟩ := Text.eq_of_byteLength_eq same (by
        rw [Text.byteLength_append]
        simp only at startEq stopEq bytes
        omega)
      exact ends doubled c (by simp [afterEq])
    | unterminated => contradiction
  last span member := by
    apply cut.ne_unterminated
    rw [← Span.map_span_located 0 spans, ← List.map_dropLast]
    exact List.mem_map_of_mem member
  unclosed span member kind := by
    obtain ⟨before, after, rfl, -, -⟩ := Span.exists_of_mem_located member
    obtain ⟨start, stop, kind', text⟩ := span
    cases cut.of_append with
    | unquoted => contradiction
    | quoted => contradiction
    | @unterminated opener body quote inside => exact ⟨opener, body, rfl, quote, inside⟩

/-- The spans of a partition make up its text and are well cut. -/
theorem IsPartition.wellCut {text : Text} {spans : List Span.Located}
    (partition : style.IsPartition text spans) :
    spans = Span.located 0 (spans.map (·.span)) ∧ text = Span.texts (spans.map (·.span)) ∧
      style.WellCut (spans.map (·.span)) := by
  obtain ⟨locatedEq, textEq⟩ := Span.eq_located (show text = [] ++ text from rfl)
    partition.contiguous partition.slices
  rw [Text.byteLength_nil] at locatedEq
  refine ⟨locatedEq, textEq, ?_⟩
  generalize cuts : spans.map (·.span) = cut at locatedEq textEq
  have chain : cut.IsChain fun a b => ¬(a.kind = .unquoted ∧ b.kind = .unquoted) := by
    rw [← cuts, List.isChain_map]
    exact partition.maximal
  have last : ∀ span ∈ cut.dropLast, span.kind ≠ .unterminated := by
    intro span member
    rw [← cuts, ← List.map_dropLast] at member
    obtain ⟨located, isLocated, rfl⟩ := List.mem_map.mp member
    exact partition.last located isLocated
  -- The part of the list that is known to be well cut grows from its end.
  suffices grown : ∀ before after, cut = before ++ after → style.WellCut after from
    grown [] cut rfl
  intro before after split
  induction after generalizing before with
  | nil => exact .nil
  | cons span more ih =>
    have cutMore : style.WellCut more := ih (before ++ [span]) (by simp [split])
    have member := Span.mem_located 0 before more span
    rw [← split, ← locatedEq, Nat.zero_add] at member
    obtain ⟨kind, spanText⟩ := span
    cases kind with
    | unquoted =>
      refine .unquoted ?_ (partition.plain _ member rfl) ?_ cutMore
      · have positive := partition.nonempty _ member
        rintro rfl
        simp at positive
      · rw [split] at chain
        intro next isNext unquoted
        exact (List.isChain_cons.mp chain.right_of_append).1 next isNext ⟨rfl, unquoted⟩
    | quoted =>
      obtain ⟨opener, body, close, rfl, quote, inside, closes, ends⟩ :=
        partition.closed _ member rfl
      refine .quoted quote inside closes ?_ cutMore
      intro doubled c isNext
      obtain ⟨back, backEq⟩ := List.head?_eq_some_iff.mp isNext
      apply ends doubled (Span.texts before ++ (opener :: (body ++ [close]))) c back
      · rw [textEq, split]
        simp [Span.texts, ← backEq]
      · rw [Text.byteLength_append]
    | unterminated =>
      obtain ⟨opener, body, rfl, quote, inside⟩ := partition.unclosed _ member rfl
      have nothing : more = [] := by
        by_contra something
        refine last ⟨.unterminated, opener :: body⟩ ?_ rfl
        rw [split, List.dropLast_append_of_ne_nil (by simp), List.dropLast_cons_of_ne_nil something]
        simp
      subst nothing
      exact .unterminated quote inside

/-- The located spans of a text are a partition of it, and it has no other. -/
theorem isPartition_iff (style : QuoteStyle) (text : Text) (spans : List Span.Located) :
    style.IsPartition text spans ↔ spans = style.locatedSpans text := by
  constructor
  · intro partition
    obtain ⟨locatedEq, textEq, cut⟩ := partition.wellCut
    rw [locatedEq, locatedSpans, textEq, cut.spans_texts]
  · rintro rfl
    have partition := (style.wellCut_spans text).isPartition
    rwa [style.spans_flatten text] at partition

end QuoteStyle

end QuotedText
