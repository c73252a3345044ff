import QuotedText.Text.Blank

/-!
# Scalars of a settings document

A scalar is written plainly on one line or between quotes. Between quotes, blanks around a line
break fold: one break reads as a space, further breaks as line feeds. Double quotes also know
escapes, by letter or by code point, and an escaped line break, which reads as nothing. What a
reader leaves over is never longer than what it was given (`quotedBody_lt`, `plain?_le`).
-/

namespace QuotedText.Yaml

/-- Whether a character ends a line. -/
def isBreak (c : Char) : Bool :=
  c == '\n' || c == '\r' || c == '\u0085' || c == '\u2028' || c == '\u2029'

/-- Whether a character is a space or a tab. -/
def isSpace (c : Char) : Bool :=
  c == ' ' || c == '\t'

/-- Whether a character is a space, a tab or ends a line. -/
def isGap (c : Char) : Bool :=
  isSpace c || isBreak c

/-- Whether a gap or the end of the document stands at the head of a text. -/
def startsGap : Text → Bool
  | [] => true
  | c :: _ => isGap c

/-- Whether a text starts with the mark that opens a document. -/
def startsDocument (text : Text) : Bool :=
  ['-', '-', '-'].isPrefixOf text && startsGap (text.drop 3)

/-- Whether a text starts with the mark that closes a document. -/
def endsDocument (text : Text) : Bool :=
  ['.', '.', '.'].isPrefixOf text && startsGap (text.drop 3)

/-- The line breaks of a text, each as a line feed unless it separates lines or paragraphs. -/
def lineBreaks : Text → Text
  | [] => []
  | '\r' :: '\n' :: rest => '\n' :: lineBreaks rest
  | c :: rest =>
    if c == '\u2028' || c == '\u2029' then c :: lineBreaks rest
    else if isBreak c then '\n' :: lineBreaks rest
    else lineBreaks rest

/-- What a gap between quotes reads as. -/
def foldGap (gap : Text) : Text :=
  match lineBreaks gap with
  | [] => gap
  | ['\n'] => [' ']
  | '\n' :: more => more
  | breaks => breaks

/-- The gap at the head of a text and what follows it; no mark of a document may stand at the
start of a line behind it. The gap itself starts behind `previous`. -/
def gap? (previous : Char) (text : Text) : Option (Text × Text) :=
  let gap := text.takeWhile isGap
  let after := text.dropWhile isGap
  if isBreak (gap.getLastD previous) && (startsDocument after || endsDocument after) then none
  else some (gap, after)

/-- The value of a hexadecimal digit. -/
def hexDigit? (c : Char) : Option Nat :=
  if '0' ≤ c ∧ c ≤ '9' then some (c.toNat - '0'.toNat)
  else if 'a' ≤ c ∧ c ≤ 'f' then some (c.toNat - 'a'.toNat + 10)
  else if 'A' ≤ c ∧ c ≤ 'F' then some (c.toNat - 'A'.toNat + 10)
  else none

/-- The number that hexadecimal digits write, continuing `value`. -/
def hexNumber? (value : Nat) : Text → Option Nat
  | [] => some value
  | c :: rest =>
    match hexDigit? c with
    | some digit => hexNumber? (16 * value + digit) rest
    | none => none

/-- The character whose code point the next `count` hexadecimal digits write. -/
def codePoint? (count : Nat) (text : Text) : Option (Text × Text) :=
  let digits := text.take count
  if digits.length = count then
    match hexNumber? 0 digits with
    | some value => if value.isValidChar then some ([Char.ofNat value], text.drop count) else none
    | none => none
  else none

/-- The characters that an escape names by one letter. -/
def namedEscapes : List (Char × Char) :=
  [('0', '\x00'), ('a', '\x07'), ('b', '\x08'), ('t', '\t'), ('\t', '\t'), ('n', '\n'),
    ('v', '\x0b'), ('f', '\x0c'), ('r', '\r'), ('e', '\x1b'), (' ', ' '), ('"', '"'),
    ('/', '/'), ('\\', '\\'), ('N', '\u0085'), ('_', '\u00a0'), ('L', '\u2028'),
    ('P', '\u2029')]

/-- What an escape reads as, given the text behind its backslash. -/
def escape? : Text → Option (Text × Text)
  | [] => none
  | c :: rest =>
    if isBreak c then
      let line := if c == '\r' && ['\n'].isPrefixOf rest then rest.drop 1 else rest
      (gap? c line).map fun (gap, after) => (lineBreaks gap, after)
    else if c == 'x' then codePoint? 2 rest
    else if c == 'u' then codePoint? 4 rest
    else if c == 'U' then codePoint? 8 rest
    else (namedEscapes.lookup c).map fun named => ([named], rest)

/-- The two quotes of scalars. -/
inductive QuoteMark where
  /-- A quote that is doubled to stand for itself. -/
  | single
  /-- A quote between which a backslash escapes. -/
  | double
deriving DecidableEq, Repr

/-- How a quote is written. -/
def QuoteMark.char : QuoteMark → Char
  | .single => '\''
  | .double => '"'

/-- What follows a gap is no longer than the text. -/
theorem gap?_le {previous : Char} {text gap after : Text}
    (h : gap? previous text = some (gap, after)) : after.length ≤ text.length := by
  simp only [gap?] at h
  split at h
  · simp at h
  · simp only [Option.some.injEq, Prod.mk.injEq] at h
    rw [← h.2]
    exact (List.dropWhile_sublist isGap).length_le

/-- What follows an escaped code point is no longer than the text. -/
theorem codePoint?_le {count : Nat} {text read after : Text}
    (h : codePoint? count text = some (read, after)) : after.length ≤ text.length := by
  unfold codePoint? at h
  dsimp only at h
  split at h
  · split at h
    · split at h
      · simp only [Option.some.injEq, Prod.mk.injEq] at h
        simp [← h.2]
      · simp at h
    · simp at h
  · simp at h

/-- What follows an escape is no longer than the text behind its backslash. -/
theorem escape?_le {text read after : Text} (h : escape? text = some (read, after)) :
    after.length ≤ text.length := by
  unfold escape? at h
  split at h
  · simp at h
  · rename_i c rest
    have weaken {length : Nat} (short : length ≤ rest.length) :
        length ≤ (c :: rest).length := by simp only [List.length_cons]; omega
    split at h
    · obtain ⟨⟨gap, tail⟩, found, equal⟩ := Option.map_eq_some_iff.mp h
      simp only [Prod.mk.injEq] at equal
      have short := gap?_le found
      rw [← equal.2]
      apply weaken
      split at short
      · simp only [List.length_drop] at short
        omega
      · exact short
    · split at h
      · exact weaken (codePoint?_le h)
      · split at h
        · exact weaken (codePoint?_le h)
        · split at h
          · exact weaken (codePoint?_le h)
          · obtain ⟨named, _, equal⟩ := Option.map_eq_some_iff.mp h
            simp only [Prod.mk.injEq] at equal
            simp [← equal.2]

/-- Whether a character between quotes starts an escape. -/
def QuoteMark.escapes : QuoteMark → Char → Bool
  | .double, '\\' => true
  | _, _ => false

/-- What follows the second of two quotes that stand for one, given the text behind the first. -/
def QuoteMark.afterDoubled? : QuoteMark → Text → Option Text
  | .single, '\'' :: rest => some rest
  | _, _ => none

/-- What follows a doubled quote is shorter than the text behind the first quote. -/
theorem afterDoubled?_lt {mark : QuoteMark} {text rest : Text}
    (h : mark.afterDoubled? text = some rest) : rest.length < text.length := by
  unfold QuoteMark.afterDoubled? at h
  split at h
  · simp only [Option.some.injEq] at h
    simp [h]
  · simp at h

/-- The text between quotes and what follows the closing quote. -/
def quotedBody (mark : QuoteMark) : Text → Option (Text × Text)
  | [] => none
  | c :: rest =>
    if isGap c then
      match _gap : gap? c rest with
      | some (gap, after) =>
        (quotedBody mark after).map fun (body, tail) => (foldGap (c :: gap) ++ body, tail)
      | none => none
    else if c == mark.char then
      match _doubled : mark.afterDoubled? rest with
      | some more => (quotedBody mark more).map fun (body, tail) => (c :: body, tail)
      | none => some ([], rest)
    else if mark.escapes c then
      match _escape : escape? rest with
      | some (read, after) =>
        (quotedBody mark after).map fun (body, tail) => (read ++ body, tail)
      | none => none
    else (quotedBody mark rest).map fun (body, tail) => (c :: body, tail)
termination_by text => text.length
decreasing_by
  · have short := gap?_le _gap
    simp only [List.length_cons]
    omega
  · have shorter := afterDoubled?_lt _doubled
    simp only [List.length_cons]
    omega
  · have short := escape?_le _escape
    simp only [List.length_cons]
    omega
  · simp

/-- What follows the closing quote is shorter than the text behind the opening one. -/
theorem quotedBody_lt {mark : QuoteMark} {text body after : Text}
    (h : quotedBody mark text = some (body, after)) : after.length < text.length := by
  fun_induction quotedBody mark text generalizing body after <;>
    simp only [Option.map_eq_some_iff, Option.some.injEq, Prod.mk.injEq, Prod.exists,
      reduceCtorEq] at h
  case case2 found ih =>
    obtain ⟨inner, tail, read, -, rfl⟩ := h
    have short := gap?_le found
    have shorter := ih read
    simp only [List.length_cons]
    omega
  case case4 found ih =>
    obtain ⟨inner, tail, read, -, rfl⟩ := h
    have short := afterDoubled?_lt found
    have shorter := ih read
    simp only [List.length_cons]
    omega
  case case5 => simp [← h.2]
  case case6 found ih =>
    obtain ⟨inner, tail, remaining, -, rfl⟩ := h
    have short := escape?_le found
    have shorter := ih remaining
    simp only [List.length_cons]
    omega
  case case8 ih =>
    obtain ⟨inner, tail, read, -, rfl⟩ := h
    have shorter := ih read
    simp only [List.length_cons]
    omega

/-- Whether a character always stands for itself in a flow collection. -/
def isFlowIndicator (c : Char) : Bool :=
  c == ',' || c == '[' || c == ']' || c == '\x7b' || c == '\x7d'

/-- Whether a character begins a construct other than a plain scalar. -/
def isIndicator (c : Char) : Bool :=
  isFlowIndicator c ||
    ['-', '?', ':', '#', '&', '*', '!', '|', '>', '\'', '"', '%', '@', '\x60'].contains c

/-- Whether a plain scalar starts at the head of a text. -/
def startsPlain (inFlow : Bool) : Text → Bool
  | [] => false
  | c :: rest =>
    if isGap c then false
    else if c == '-' then !startsGap rest
    else if c == '?' || c == ':' then !inFlow && !startsGap rest
    else !isIndicator c

/-- The rest of the line that belongs to a plain scalar, with the blanks behind it, and what
follows; `afterSpace` says whether a space or tab has just been read. -/
def plainRun (inFlow afterSpace : Bool) : Text → Option (Text × Text)
  | [] => some ([], [])
  | c :: rest =>
    if isBreak c || (c == '#' && afterSpace) || (c == ':' && startsGap rest)
        || (inFlow && isFlowIndicator c) then
      some ([], c :: rest)
    else if inFlow && c == ':' && rest.head?.any (fun next => isFlowIndicator next || next == '?')
        then none
    else (plainRun inFlow (isSpace c) rest).map fun (run, after) => (c :: run, after)

/-- The plain scalar that starts with `first`, without the blanks behind it, and what follows. -/
def plain? (inFlow : Bool) (first : Char) (rest : Text) : Option (Text × Text) :=
  (plainRun inFlow false rest).map fun (run, after) =>
    (Text.dropEndWhile isSpace (first :: run), after)

/-- What follows the run of a plain scalar is no longer than the text. -/
theorem plainRun_le {inFlow afterSpace : Bool} {text run after : Text}
    (h : plainRun inFlow afterSpace text = some (run, after)) : after.length ≤ text.length := by
  induction text generalizing afterSpace run with
  | nil =>
    simp only [plainRun, Option.some.injEq, Prod.mk.injEq] at h
    simp [← h.2]
  | cons c rest ih =>
    unfold plainRun at h
    split at h
    · simp only [Option.some.injEq, Prod.mk.injEq] at h
      simp [← h.2]
    · split at h
      · simp at h
      · obtain ⟨⟨inner, tail⟩, found, equal⟩ := Option.map_eq_some_iff.mp h
        simp only [Prod.mk.injEq] at equal
        have short := ih (equal.2 ▸ found)
        simp only [List.length_cons]
        omega

/-- What follows a plain scalar is no longer than the text behind its first character. -/
theorem plain?_le {inFlow : Bool} {first : Char} {rest text after : Text}
    (h : plain? inFlow first rest = some (text, after)) : after.length ≤ rest.length := by
  obtain ⟨⟨run, tail⟩, found, equal⟩ := Option.map_eq_some_iff.mp h
  simp only [Prod.mk.injEq] at equal
  exact equal.2 ▸ plainRun_le found

end QuotedText.Yaml
