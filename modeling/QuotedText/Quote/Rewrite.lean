import QuotedText.Quote.Span

/-!
# Rewriting outside quotes

A rewrite replaces the text of every unquoted span and copies the regions. It may have an effect,
such as a state that one call leaves to the next: it is called once for each unquoted text, in
order (`QuoteStyle.state_rewriteUnquotedM`). A rewrite without effects works on each span by itself
(`QuoteStyle.rewriteUnquoted_eq`), and rewriting with the identity changes nothing
(`QuoteStyle.rewrite_id`).
-/

namespace QuotedText

namespace Span

/-- The text of a span after a rewrite of unquoted text. -/
def rewritten (rewrite : Text → Text) (span : Span) : Text :=
  match span.kind with
  | .unquoted => rewrite span.text
  | .quoted | .unterminated => span.text

/-- The text of spans after a rewrite of unquoted text that is called from left to right. -/
def rewriteAll {m : Type → Type} [Monad m] (rewrite : Text → m Text) : List Span → m Text
  | [] => return []
  | ⟨.unquoted, text⟩ :: more => return (← rewrite text) ++ (← rewriteAll rewrite more)
  | ⟨.quoted, text⟩ :: more | ⟨.unterminated, text⟩ :: more =>
    return text ++ (← rewriteAll rewrite more)

end Span

namespace QuoteStyle

/-- The texts that a rewrite is applied to, in order. -/
def unquotedTexts (style : QuoteStyle) (text : Text) : List Text :=
  ((style.spans text).filter (·.kind = .unquoted)).map (·.text)

/-- Replaces the text of each unquoted span in turn and keeps everything else. -/
def rewriteUnquotedM {m : Type → Type} [Monad m] (style : QuoteStyle) (rewrite : Text → m Text)
    (text : Text) : m Text :=
  Span.rewriteAll rewrite (style.spans text)

/-- Replaces the text of each unquoted span by a rewrite without effects. -/
def rewriteUnquoted (style : QuoteStyle) (rewrite : Text → Text) (text : Text) : Text :=
  Id.run (style.rewriteUnquotedM (fun part => pure (rewrite part)) text)

/-- A rewrite with a state is called once for each unquoted text, in order. -/
theorem state_rewriteUnquotedM {σ : Type} (style : QuoteStyle) (rewrite : Text → StateM σ Text)
    (text : Text) (state : σ) :
    ((style.rewriteUnquotedM rewrite text).run state).2 =
      (style.unquotedTexts text).foldl (fun state part => ((rewrite part).run state).2) state := by
  unfold rewriteUnquotedM unquotedTexts
  generalize style.spans text = spans
  induction spans generalizing state with
  | nil => rfl
  | cons span more ih =>
    obtain ⟨kind, part⟩ := span
    cases kind with
    | unquoted => exact ih ((rewrite part).run state).2
    | quoted => exact ih state
    | unterminated => exact ih state

/-- A rewrite without effects works on each span by itself. -/
theorem rewriteUnquoted_eq (style : QuoteStyle) (rewrite : Text → Text) (text : Text) :
    style.rewriteUnquoted rewrite text = (style.spans text).flatMap (·.rewritten rewrite) := by
  unfold rewriteUnquoted rewriteUnquotedM
  generalize style.spans text = spans
  induction spans with
  | nil => rfl
  | cons span more ih =>
    obtain ⟨kind, part⟩ := span
    cases kind <;> simp [Span.rewriteAll, Span.rewritten, ih]

/-- Rewriting with the identity changes nothing. -/
theorem rewrite_id (style : QuoteStyle) (text : Text) : style.rewriteUnquoted id text = text := by
  have unchanged : Span.rewritten id = fun span => span.text := by
    funext span
    unfold Span.rewritten
    split <;> rfl
  rw [rewriteUnquoted_eq, unchanged]
  exact style.spans_flatten text

end QuoteStyle

end QuotedText
