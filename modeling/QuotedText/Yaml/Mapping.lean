import QuotedText.Yaml.Token

/-!
# The mapping of a settings document

The second step of reading: the tokens of a document are one mapping from keys to values, in block
or in flow form, between optional document marks. A value is missing, a scalar, or a sequence of
scalars in block or flow form. In a block, entries stand below each other and what belongs to one
stands to the right of it; only the dashes of a sequence may stand right below its key. Entries
are given as written, repeated keys included. A document without content is an empty mapping.
-/

namespace QuotedText.Yaml

/-- What stands behind a key. -/
inductive Value where
  /-- Nothing at all. -/
  | empty
  | scalar (text : Text)
  | sequence (items : List Text)
deriving DecidableEq, Repr

/-- A key with its value. -/
structure Entry where
  /-- The key. -/
  key : Text
  /-- What stands behind it. -/
  value : Value
deriving DecidableEq, Repr

/-- The items of a flow sequence behind its opening bracket, and the tokens that follow it. -/
def flowItems : List Token → Option (List Text × List Token)
  | ⟨.closeSequence, _, _⟩ :: more => some ([], more)
  | ⟨.scalar text _, _, _⟩ :: ⟨.closeSequence, _, _⟩ :: more => some ([text], more)
  | ⟨.scalar text _, _, _⟩ :: ⟨.comma, _, _⟩ :: more =>
    (flowItems more).map fun (items, rest) => (text :: items, rest)
  | _ => none

/-- The items of a block sequence whose dashes stand at `column`, and the tokens that follow it. -/
def blockItems (column : Nat) : List Token → List Text × List Token
  | ⟨.dash, dashColumn, dashOpens⟩ :: ⟨.scalar text oneLine, textColumn, textOpens⟩ :: more =>
    if dashOpens && dashColumn == column && (!textOpens || decide (column < textColumn)) then
      let (items, rest) := blockItems column more
      (text :: items, rest)
    else
      ([], ⟨.dash, dashColumn, dashOpens⟩ :: ⟨.scalar text oneLine, textColumn, textOpens⟩ :: more)
  | tokens => ([], tokens)

/-- The value of a key that stands at `column` of a block, and the tokens that follow it. -/
def blockValue? (column : Nat) : List Token → Option (Value × List Token)
  | [] => some (.empty, [])
  | token :: more =>
    if token.opensLine && token.symbol == .dash && decide (column ≤ token.column) then
      let (items, rest) := blockItems token.column (token :: more)
      some (.sequence items, rest)
    else if token.opensLine && decide (token.column ≤ column) then some (.empty, token :: more)
    else
      match token.symbol with
      | .scalar text _ => some (.scalar text, more)
      | .openSequence => (flowItems more).map fun (items, rest) => (.sequence items, rest)
      | _ => none

/-- The value behind a key of a flow mapping, and the tokens that follow it. -/
def flowValue? : List Token → Option (Value × List Token)
  | ⟨.scalar text _, _, _⟩ :: more => some (.scalar text, more)
  | ⟨.openSequence, _, _⟩ :: more =>
    (flowItems more).map fun (items, rest) => (.sequence items, rest)
  | tokens => some (.empty, tokens)

/-- What follows a key of a flow mapping: a colon on the same line and a value, or nothing. -/
def flowPair? (oneLine : Bool) : List Token → Option (Value × List Token)
  | ⟨.colon, _, opensLine⟩ :: more => if oneLine && !opensLine then flowValue? more else none
  | tokens => some (.empty, tokens)

/-- Items of a flow sequence leave no more tokens than there are. -/
theorem flowItems_le {tokens rest : List Token} {items : List Text}
    (h : flowItems tokens = some (items, rest)) : rest.length ≤ tokens.length := by
  fun_induction flowItems tokens generalizing items <;>
    simp only [Option.map_eq_some_iff, Option.some.injEq, Prod.mk.injEq, Prod.exists,
      reduceCtorEq] at h
  case case1 | case2 =>
    simp only [← h.2, List.length_cons]
    omega
  case case3 ih =>
    obtain ⟨inner, tail, read, -, rfl⟩ := h
    have short := ih read
    simp only [List.length_cons]
    omega

/-- Items of a block sequence leave no more tokens than there are. -/
theorem blockItems_le (column : Nat) (tokens : List Token) :
    (blockItems column tokens).2.length ≤ tokens.length := by
  fun_induction blockItems column tokens with
  | case1 dashColumn dashOpens text oneLine textColumn textOpens more _ items rest read ih =>
    simp only [read, List.length_cons] at ih ⊢
    omega
  | case2 | case3 => exact Nat.le_refl _

/-- A value in a block leaves no more tokens than there are. -/
theorem blockValue?_le {column : Nat} {tokens rest : List Token} {value : Value}
    (h : blockValue? column tokens = some (value, rest)) : rest.length ≤ tokens.length := by
  unfold blockValue? at h
  split at h
  · simp only [Option.some.injEq, Prod.mk.injEq] at h
    simp [← h.2]
  · rename_i token more
    split at h
    · simp only [Option.some.injEq, Prod.mk.injEq] at h
      rw [← h.2]
      exact blockItems_le _ _
    · split at h
      · simp only [Option.some.injEq, Prod.mk.injEq] at h
        simp [← h.2]
      · split at h
        · simp only [Option.some.injEq, Prod.mk.injEq] at h
          simp [← h.2]
        · obtain ⟨⟨items, tail⟩, read, equal⟩ := Option.map_eq_some_iff.mp h
          simp only [Prod.mk.injEq] at equal
          have short := flowItems_le read
          rw [← equal.2]
          simp only [List.length_cons]
          omega
        · simp at h

/-- A value in a flow mapping leaves no more tokens than there are. -/
theorem flowValue?_le {tokens rest : List Token} {value : Value}
    (h : flowValue? tokens = some (value, rest)) : rest.length ≤ tokens.length := by
  unfold flowValue? at h
  split at h
  · simp only [Option.some.injEq, Prod.mk.injEq] at h
    simp [← h.2]
  · obtain ⟨⟨items, tail⟩, read, equal⟩ := Option.map_eq_some_iff.mp h
    simp only [Prod.mk.injEq] at equal
    have short := flowItems_le read
    rw [← equal.2]
    simp only [List.length_cons]
    omega
  · simp only [Option.some.injEq, Prod.mk.injEq] at h
    simp [← h.2]

/-- What follows a key of a flow mapping leaves no more tokens than there are. -/
theorem flowPair?_le {oneLine : Bool} {tokens rest : List Token} {value : Value}
    (h : flowPair? oneLine tokens = some (value, rest)) : rest.length ≤ tokens.length := by
  unfold flowPair? at h
  split at h
  · split at h
    · have short := flowValue?_le h
      simp only [List.length_cons]
      omega
    · simp at h
  · simp only [Option.some.injEq, Prod.mk.injEq] at h
    simp [← h.2]

/-- The entries of a block mapping whose keys stand at `column`, and the tokens that follow it. -/
def blockEntries (column : Nat) : List Token → Option (List Entry × List Token)
  | ⟨.scalar key oneLine, keyColumn, keyOpens⟩ :: ⟨.colon, colonColumn, colonOpens⟩ :: more =>
    if keyOpens && keyColumn == column && oneLine && !colonOpens then
      match _value : blockValue? column more with
      | some (value, rest) =>
        (blockEntries column rest).map fun (entries, rest) => (⟨key, value⟩ :: entries, rest)
      | none => none
    else
      some ([], ⟨.scalar key oneLine, keyColumn, keyOpens⟩ ::
        ⟨.colon, colonColumn, colonOpens⟩ :: more)
  | tokens => some ([], tokens)
termination_by tokens => tokens.length
decreasing_by
  have short := blockValue?_le _value
  simp only [List.length_cons]
  omega

/-- The entries of a flow mapping behind its opening brace, and the tokens that follow it. -/
def flowEntries : List Token → Option (List Entry × List Token)
  | ⟨.closeMapping, _, _⟩ :: more => some ([], more)
  | ⟨.scalar key oneLine, _, _⟩ :: more =>
    match _pair : flowPair? oneLine more with
    | some (value, ⟨.closeMapping, _, _⟩ :: rest) => some ([⟨key, value⟩], rest)
    | some (value, ⟨.comma, _, _⟩ :: rest) =>
      (flowEntries rest).map fun (entries, rest) => (⟨key, value⟩ :: entries, rest)
    | _ => none
  | _ => none
termination_by tokens => tokens.length
decreasing_by
  have short := flowPair?_le _pair
  simp only [List.length_cons] at short ⊢
  omega

/-- The entries of a document behind its opening mark, if it has one, and the tokens that follow
them. Only a document that is opened by a mark may be closed by one without content. -/
def content? (marked : Bool) : List Token → Option (List Entry × List Token)
  | [] => some ([], [])
  | token :: more =>
    match token.symbol with
    | .openMapping => flowEntries more
    | .documentEnd => if marked then some ([], token :: more) else none
    | _ => blockEntries token.column (token :: more)

/-- The entries of a document and the tokens that follow them. -/
def document? : List Token → Option (List Entry × List Token)
  | ⟨.documentStart, _, _⟩ :: more => content? true more
  | tokens => content? false tokens

/-- The entries of the one mapping that a text holds. -/
def entries? (text : Text) : Option (List Entry) :=
  match (tokens text).bind document? with
  | some (entries, rest) =>
    if rest.all (·.symbol == .documentEnd) then some entries else none
  | none => none

end QuotedText.Yaml
