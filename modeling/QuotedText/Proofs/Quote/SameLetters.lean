import QuotedText.Proofs.Quote.Search
import QuotedText.Proofs.Quote.Split

/-!
# Texts with the same letters

Characters that are the same letter may differ, and even in their number of bytes. A scan compares
characters by their letters only, so on texts that agree it takes the same steps, counted in
characters: the regions at the heads of both agree (`QuoteStyle.exists_region?_of_agrees`), and so
do the spans and the pieces of both one by one (`QuoteStyle.spans_of_agrees`,
`QuoteStyle.pieces_of_agrees`). What a search finds and how a text is cut up is a matter of letters,
not of characters or bytes (`QuoteStyle.same_letters_invariance`).
-/

namespace QuotedText

section

variable {α β : Type} {r : α → β → Prop}

/-- Lists that are related one by one stay so when their first elements are changed alike. -/
theorem forall₂_modifyHead {former : List α} {latter : List β} {change : α → α} {change' : β → β}
    (related : List.Forall₂ r former latter) (alike : ∀ a b, r a b → r (change a) (change' b)) :
    List.Forall₂ r (former.modifyHead change) (latter.modifyHead change') := by
  cases related with
  | nil => exact .nil
  | cons first more => exact .cons (alike _ _ first) more

/-- Lists that are related one by one have the same images under maps that do not tell related
elements apart. -/
theorem map_eq_of_forall₂ {γ : Type} {former : List α} {latter : List β} {image : α → γ}
    {image' : β → γ} (related : List.Forall₂ r former latter)
    (same : ∀ a b, r a b → image a = image' b) : former.map image = latter.map image' := by
  induction related with
  | nil => rfl
  | cons first _ ih => rw [List.map_cons, List.map_cons, same _ _ first, ih]

end

namespace Span

/-- Two spans agree when they are of one kind and their texts have the same letters. -/
def Agrees (letterCase : LetterCase) (span span' : Span) : Prop :=
  span.kind = span'.kind ∧ letterCase.Agrees span.text span'.text

/-- Spans agree as before with characters of the same letter put before them. -/
theorem agrees_consUnquoted {letterCase : LetterCase} {c c' : Char} {spans spans' : List Span}
    (same : letterCase.same c c') (agree : List.Forall₂ (Span.Agrees letterCase) spans spans') :
    List.Forall₂ (Span.Agrees letterCase) (consUnquoted c spans) (consUnquoted c' spans') := by
  have alone : Span.Agrees letterCase ⟨.unquoted, [c]⟩ ⟨.unquoted, [c']⟩ :=
    ⟨rfl, .cons same .nil⟩
  cases agree with
  | nil => exact .cons alone .nil
  | @cons first first' more more' agrees later =>
    obtain ⟨kind, text⟩ := first
    obtain ⟨kind', text'⟩ := first'
    obtain ⟨rfl, letters⟩ := agrees
    cases kind with
    | unquoted => exact .cons ⟨rfl, .cons same letters⟩ later
    | quoted => exact .cons alone (.cons ⟨rfl, letters⟩ later)
    | unterminated => exact .cons alone (.cons ⟨rfl, letters⟩ later)

end Span

namespace QuoteStyle

variable {style : QuoteStyle} {text text' : Text}

/-! ## Regions -/

/-- Text that agrees with what leaves a region open leaves a region of the same quote open. -/
theorem Inside.of_agrees {opener opener' : Char} (inside : style.Inside opener text)
    (openers : style.letterCase.same opener opener') (agrees : style.letterCase.Agrees text text') :
    style.Inside opener' text' := by
  induction inside generalizing text' with
  | nil =>
    cases agrees
    exact .nil
  | plain other _ ih =>
    cases agrees with
    | cons same more => exact .plain ((closes_of_same openers same).symm.trans other) (ih more)
  | pair doubled first second _ ih =>
    cases agrees with
    | cons same more =>
      cases more with
      | cons same' more =>
        exact .pair doubled ((closes_of_same openers same).symm.trans first)
          ((closes_of_same openers same').symm.trans second) (ih more)

/-- Before text that agrees, a region of the same quote ends or goes on alike. -/
theorem EndsBefore.of_agrees {opener opener' : Char} (ends : style.EndsBefore opener text)
    (openers : style.letterCase.same opener opener') (agrees : style.letterCase.Agrees text text') :
    style.EndsBefore opener' text' := by
  intro doubled c' isHead
  cases agrees with
  | nil => contradiction
  | @cons c _ _ _ same _ =>
    obtain rfl := Option.some.inj isHead
    exact (closes_of_same openers same).symm.trans (ends doubled c rfl)

/-- Where a region starts, one that agrees starts in a text that agrees. -/
theorem exists_region?_of_agrees {region : Region} (found : style.region? text = some region)
    (agrees : style.letterCase.Agrees text text') :
    ∃ region', style.region? text' = some region' ∧
      Span.Agrees style.letterCase region.span region'.span ∧
      style.letterCase.Agrees region.rest region'.rest := by
  cases text with
  | nil => contradiction
  | cons opener behind =>
    obtain ⟨opener', behind', rfl, openers, others⟩ := agrees.exists_cons
    have quote : style.isQuote opener := isQuote_of_region? found
    have quote' : style.isQuote opener' := by rwa [← isQuote_congr openers]
    rcases closing?_cases style opener behind with
      ⟨body, close, rest, rfl, inside, closes, ends⟩ | inside
    · obtain rfl := Option.some.inj ((region?_closed quote inside closes ends).symm.trans found)
      obtain ⟨body', closed', rfl, bodies, closed⟩ := others.exists_append
      obtain ⟨close', rest', rfl, same, rests⟩ := closed.exists_cons
      have closes' : style.closes opener' close' := by rwa [← closes_of_same openers same]
      have regions : style.letterCase.Agrees (opener :: (body ++ [close]))
          (opener' :: (body' ++ [close'])) := .cons openers (bodies.append (.cons same .nil))
      exact ⟨_, region?_closed quote' (inside.of_agrees openers bodies) closes'
        (ends.of_agrees openers rests), ⟨rfl, regions⟩, rests⟩
    · obtain rfl := Option.some.inj ((region?_open quote inside).symm.trans found)
      exact ⟨_, region?_open quote' (inside.of_agrees openers others),
        ⟨rfl, .cons openers others⟩, .nil⟩

/-- Where no region starts, none starts in a text that agrees. -/
theorem region?_eq_none_of_agrees (none : style.region? text = none)
    (agrees : style.letterCase.Agrees text text') : style.region? text' = .none := by
  cases other : style.region? text' with
  | none => rfl
  | some region' =>
    obtain ⟨region, found, -⟩ := exists_region?_of_agrees other agrees.symm
    rw [none] at found
    contradiction

/-! ## Scans -/

/-- Texts that agree have spans that agree one by one. -/
theorem spans_of_agrees (agrees : style.letterCase.Agrees text text') :
    List.Forall₂ (Span.Agrees style.letterCase) (style.spans text) (style.spans text') := by
  fun_induction spans style text generalizing text' with
  | case1 =>
    cases agrees
    rw [spans_nil]
    exact .nil
  | case2 c rest region found ih =>
    obtain ⟨region', found', spans, rests⟩ := exists_region?_of_agrees found agrees
    rw [spans_region found']
    exact .cons spans (ih rests)
  | case3 c rest none ih =>
    have none' := region?_eq_none_of_agrees none agrees
    obtain ⟨c', rest', rfl, same, rests⟩ := agrees.exists_cons
    rw [spans_unquoted (not_isQuote_of_region? none')]
    exact Span.agrees_consUnquoted same (ih rests)

/-- A search finds in a text what it finds in one that agrees. -/
theorem occurs_of_agrees {pattern pattern' : Pattern}
    (patterns : style.letterCase.Agrees pattern.text pattern'.text)
    (agrees : style.letterCase.Agrees text text') :
    style.occurs pattern text = style.occurs pattern' text' := by
  fun_induction occurs style pattern text generalizing text' with
  | case1 =>
    cases agrees
    rw [occurs]
  | case2 c rest region found ih =>
    obtain ⟨region', found', -, rests⟩ := exists_region?_of_agrees found agrees
    rw [occurs_region found', ih rests]
  | case3 c rest none ih =>
    have none' := region?_eq_none_of_agrees none agrees
    have here : (pattern.match? style.letterCase (c :: rest)).isSome =
        (pattern'.match? style.letterCase text').isSome := by
      rw [Bool.eq_iff_iff, Pattern.match?, Pattern.match?, LetterCase.isSome_match?_iff,
        LetterCase.isSome_match?_iff]
      exact ⟨fun found => found.of_agrees agrees patterns,
        fun found => found.of_agrees agrees.symm patterns.symm⟩
    obtain ⟨c', rest', rfl, same, rests⟩ := agrees.exists_cons
    rw [occurs_unquoted (not_isQuote_of_region? none'), here, ih rests]

variable {token token' : Pattern} {options : SplitOptions}

/-- Texts that agree are cut into pieces that agree one by one, when token and quotes are compared
alike. -/
theorem pieces_of_agrees (compared : options.tokenCase = style.letterCase)
    (tokens : style.letterCase.Agrees token.text token'.text)
    (agrees : style.letterCase.Agrees text text') :
    List.Forall₂ style.letterCase.Agrees (style.pieces token options text)
      (style.pieces token' options text') := by
  fun_induction pieces style token options text generalizing text' with
  | case1 =>
    cases agrees
    rw [pieces]
    exact .cons .nil .nil
  | case2 c rest region found ih =>
    obtain ⟨region', found', ⟨-, regions⟩, rests⟩ := exists_region?_of_agrees found agrees
    rw [pieces_region found']
    exact forall₂_modifyHead (ih rests) fun _ _ pieces => LetterCase.Agrees.append regions pieces
  | case3 c rest none matched after found ih =>
    have none' := region?_eq_none_of_agrees none agrees
    obtain ⟨whole, here⟩ := LetterCase.match?_eq_some_iff.mp found
    rw [whole] at agrees
    obtain ⟨matched', after', rfl, same, afters⟩ := agrees.exists_append
    have here' : options.tokenCase.Agrees matched' token'.text := by
      rw [compared] at here ⊢
      exact same.symm.trans (here.trans tokens)
    have found' : token'.match? options.tokenCase (matched' ++ after') = some (matched', after') :=
      LetterCase.match?_eq_some_iff.mpr ⟨rfl, here'⟩
    rw [pieces_of_match? none' found']
    refine .cons ?_ (ih afters)
    split
    · exact same
    · exact .nil
  | case4 c rest none unmatched ih =>
    have none' := region?_eq_none_of_agrees none agrees
    have unmatched' : ¬options.tokenCase.MatchesHead token'.text text' := by
      intro found
      refine Pattern.not_matchesHead_of_match? unmatched ?_
      rw [compared] at found ⊢
      exact found.of_agrees agrees.symm tokens.symm
    obtain ⟨c', rest', rfl, same, rests⟩ := agrees.exists_cons
    rw [pieces_unmatched (not_isQuote_of_region? none') unmatched']
    exact forall₂_modifyHead (ih rests) fun _ _ pieces => .cons same pieces

/-- Without trimming, texts that agree are reported as segments that agree one by one. -/
theorem splitOn_of_agrees (compared : options.tokenCase = style.letterCase)
    (untrimmed : options.trimmed = false)
    (tokens : style.letterCase.Agrees token.text token'.text)
    (agrees : style.letterCase.Agrees text text') :
    List.Forall₂ style.letterCase.Agrees (style.splitOn token options text)
      (style.splitOn token' options text') := by
  have report (token : Pattern) (text : Text) : style.splitOn token options text =
      (style.pieces token options text).filter (· ≠ []) := by
    rw [splitOn, untrimmed]
    rfl
  rw [report, report]
  refine List.rel_filter ?_ (pieces_of_agrees compared tokens agrees)
  intro piece piece' same
  have length : piece.length = piece'.length := same.length_eq
  simp only [decide_eq_true_iff, ← List.length_pos_iff, length]

/-- When the case of letters is not significant, texts with the same letters are scanned alike: a
needle is contained in both or in neither, and their spans and segments are the same in number, in
kind and in number of characters, also when needle and token are written with the same letters in
other characters. -/
theorem same_letters_invariance (style : QuoteStyle) (folded : style.letterCase = .insensitive)
    {text text' needle needle' : Text} (texts : LetterCase.insensitive.Agrees text text')
    (needles : LetterCase.insensitive.Agrees needle needle') (nonempty : needle ≠ []) :
    style.contains needle text = style.contains needle' text' ∧
      (style.locatedSpans text).map (fun span => (span.span.kind, span.span.text.length)) =
        (style.locatedSpans text').map (fun span => (span.span.kind, span.span.text.length)) ∧
      ∀ includeToken, ∃ segments segments',
        style.split needle ⟨includeToken, false, .insensitive⟩ text = .ok segments ∧
          style.split needle' ⟨includeToken, false, .insensitive⟩ text' = .ok segments' ∧
          segments.map (·.length) = segments'.map (·.length) := by
  rw [← folded] at texts needles ⊢
  have nonempty' : needle' ≠ [] := needles.symm.ne_nil nonempty
  refine ⟨?_, ?_, ?_⟩
  · have found : style.occurs ⟨needle, nonempty⟩ text = style.occurs ⟨needle', nonempty'⟩ text' :=
      occurs_of_agrees needles texts
    rw [contains_of_ne_nil style nonempty, contains_of_ne_nil style nonempty', found]
  · have sizes : (style.spans text).map (fun span => (span.kind, span.text.length)) =
        (style.spans text').map fun span => (span.kind, span.text.length) :=
      map_eq_of_forall₂ (spans_of_agrees texts) fun _ _ agree =>
        Prod.ext agree.1 agree.2.length_eq
    rw [← Span.map_span_located 0 (style.spans text), ← Span.map_span_located 0 (style.spans text'),
      List.map_map, List.map_map] at sizes
    exact sizes
  · intro includeToken
    exact ⟨_, _, split_of_ne_nil style nonempty _ text, split_of_ne_nil style nonempty' _ text',
      map_eq_of_forall₂ (splitOn_of_agrees rfl rfl needles texts) fun _ _ agree =>
        agree.length_eq⟩

/-- The dotless i and the long s are the letters I and S and have two bytes, so the same letters
stand at other byte positions; the long s opens a region, doubles its quote and closes it. -/
theorem same_letters_invariance_long_s :
    ({ quotes := ['s'] } : QuoteStyle).letterCase = .insensitive ∧
      LetterCase.insensitive.Agrees "ıa'ſbıſſcS ıA".toList "IA'sBisScſ iA".toList ∧
      LetterCase.insensitive.Agrees "ıa".toList "IA".toList ∧ "ıa".toList ≠ [] ∧
      ({ quotes := ['s'] } : QuoteStyle).contains "ıa".toList "ıa'ſbıſſcS ıA".toList =
        ({ quotes := ['s'] } : QuoteStyle).contains "IA".toList "IA'sBisScſ iA".toList ∧
      ({ quotes := ['s'] } : QuoteStyle).locatedSpans "ıa'ſbıſſcS ıA".toList =
        [⟨0, 4, ⟨.unquoted, "ıa'".toList⟩⟩, ⟨4, 15, ⟨.quoted, "ſbıſſcS".toList⟩⟩,
          ⟨15, 19, ⟨.unquoted, " ıA".toList⟩⟩] ∧
      (({ quotes := ['s'] } : QuoteStyle).locatedSpans "ıa'ſbıſſcS ıA".toList).map
          (fun span => (span.span.kind, span.span.text.length)) =
        (({ quotes := ['s'] } : QuoteStyle).locatedSpans "IA'sBisScſ iA".toList).map
          (fun span => (span.span.kind, span.span.text.length)) ∧
      ∃ segments segments',
        ({ quotes := ['s'] } : QuoteStyle).split "ıa".toList ⟨true, false, .insensitive⟩
            "ıa'ſbıſſcS ıA".toList = .ok segments ∧
          ({ quotes := ['s'] } : QuoteStyle).split "IA".toList ⟨true, false, .insensitive⟩
            "IA'sBisScſ iA".toList = .ok segments' ∧
          segments.map (·.length) = segments'.map (·.length) := by
  have texts : LetterCase.insensitive.Agrees "ıa'ſbıſſcS ıA".toList "IA'sBisScſ iA".toList := by
    unfold LetterCase.Agrees
    decide +kernel
  have needles : LetterCase.insensitive.Agrees "ıa".toList "IA".toList := by
    unfold LetterCase.Agrees
    decide +kernel
  have nonempty : "ıa".toList ≠ [] := by decide
  obtain ⟨contains, spans, splits⟩ :=
    same_letters_invariance { quotes := ['s'] } rfl texts needles nonempty
  exact ⟨rfl, texts, needles, nonempty, contains, by decide +kernel, spans, splits true⟩

end QuoteStyle

end QuotedText
