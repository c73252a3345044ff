import QuotedText.Proofs.CommandLine.Source
import QuotedText.Proofs.CommandLine.Words
import QuotedText.Proofs.Quote.Search
import QuotedText.Proofs.Sql.Lexeme

/-!
# How a run ends

A run fails when its style document, its input or its needle cannot be used, and reports the first
of these that fails (`CommandLine.FirstFailure`). Otherwise its exit code says what the text is
like: `lex` tells of a literal that stays open, `contains` of a needle that is not found. Each of
the four exit codes is characterized by `CommandLine.Classified`, in terms of what files, streams,
operands and switches hold, and the run of every invocation is classified so
(`CommandLine.run_classified`). A command without a quote style never looks at a style document.
Nothing is assumed about the packages or about what makes up an invocation from arguments: a
document is wrong when the decoder finds no record in it, or not the values of its fields, and what
is said about the cause of a failure stands behind the line that reports it.
-/

namespace QuotedText

/-- The needle matches at some character of unquoted text. -/
def QuoteStyle.MatchStartsUnquoted (style : QuoteStyle) (needle text : Text) : Prop :=
  ∃ span ∈ style.locatedSpans text, span.span.kind = .unquoted ∧
    ∃ front back : Text, text = front ++ back ∧ span.start ≤ front.byteLength ∧
      front.byteLength < span.stop ∧ style.letterCase.MatchesHead needle back

namespace CommandLine

variable {Path : Type}

/-! ## What a command needs -/

/-- The style document of a command that has a quote style cannot be read or is wrong, and this is
what is said about it. -/
inductive ConfigFails (packages : Packages Path) (sources : Sources Path)
    (invocation : Invocation Path) : Text → Prop
  /-- There is no document to read. -/
  | unreadable {changes : StyleChanges} {path : Path}
      (styled : invocation.command.styleChanges? = some changes)
      (named : invocation.config? = some path) (missing : sources.file? path = none) :
      ConfigFails packages sources invocation
        ("failed to read scan config: ".toList ++ packages.shown path)
  /-- The document is not blank and holds no style. -/
  | invalid {changes : StyleChanges} {path : Path} {document : Text}
      (styled : invocation.command.styleChanges? = some changes)
      (named : invocation.config? = some path) (found : sources.file? path = some document)
      (visible : ∃ c ∈ document, isBlank c = false)
      (wrong : ∀ style, ¬DocumentHolds packages.decoder document style) :
      ConfigFails packages sources invocation
        ("invalid scan config: ".toList ++ packages.shown path)

/-- The source of the text of a command cannot be read. -/
inductive InputFails (packages : Packages Path) (sources : Sources Path)
    (invocation : Invocation Path) : Text → Prop
  /-- There is no operand and no file to read under the path that is named. -/
  | file {source : InputSource Path} {path : Path}
      (reads : invocation.command.input? = some source) (noOperand : source.text? = none)
      (named : source.file? = some path) (missing : sources.file? path = none) :
      InputFails packages sources invocation
        ("failed to read input: ".toList ++ packages.shown path)
  /-- There is neither operand nor file, and the standard input is no text. -/
  | standardInput {source : InputSource Path}
      (reads : invocation.command.input? = some source) (noOperand : source.text? = none)
      (noFile : source.file? = none) (missing : sources.standardInput = none) :
      InputFails packages sources invocation "failed to read stdin".toList

/-- The needle or token of a command is empty. -/
inductive ArgumentEmpty : Command Path → Text → Prop
  /-- There is nothing to search for. -/
  | needle {input : InputSource Path} {changes : StyleChanges} {quiet : Bool} :
      ArgumentEmpty (.contains [] input changes quiet) "needle must not be empty".toList
  /-- There is nothing to split on. -/
  | token {input : InputSource Path} {changes : StyleChanges} {options : SplitOptions}
      {format : Format} :
      ArgumentEmpty (.split [] input changes options format) "split token must not be empty".toList

/-- What an invocation says about a failure: that of the style document before that of the input,
and that of the input before an empty argument. -/
inductive FirstFailure (packages : Packages Path) (sources : Sources Path)
    (invocation : Invocation Path) : Text → Prop
  /-- The style document fails. -/
  | config {message : Text} (fails : ConfigFails packages sources invocation message) :
      FirstFailure packages sources invocation message
  /-- The input is the first to fail. -/
  | input {message : Text} (styled : ∀ other, ¬ConfigFails packages sources invocation other)
      (fails : InputFails packages sources invocation message) :
      FirstFailure packages sources invocation message
  /-- Only an argument is wrong. -/
  | argument {message : Text} (styled : ∀ other, ¬ConfigFails packages sources invocation other)
      (readable : ∀ other, ¬InputFails packages sources invocation other)
      (empty : ArgumentEmpty invocation.command message) :
      FirstFailure packages sources invocation message

/-- Nothing that an invocation needs fails. -/
def Sound (packages : Packages Path) (sources : Sources Path) (invocation : Invocation Path) :
    Prop :=
  ∀ message, ¬FirstFailure packages sources invocation message

/-- The text of `lex` has an odd number of quotes. -/
def LeavesLiteralOpen (sources : Sources Path) (invocation : Invocation Path) : Prop :=
  ∃ input format text, invocation.command = .lex input format ∧ Holds sources input text ∧
    Odd (text.count '\'')

/-- No match of the needle of `contains` starts in unquoted text. -/
def FindsNothing (packages : Packages Path) (sources : Sources Path)
    (invocation : Invocation Path) : Prop :=
  ∃ needle input changes quiet base style text,
    invocation.command = .contains needle input changes quiet ∧
      SpellsStyle packages.decoder sources invocation.config? base ∧
      ChangedStyle changes base style ∧ Holds sources input text ∧
      ¬style.MatchStartsUnquoted needle text

/-- The exit code of an outcome tells what has happened, and the outcome reports it. -/
structure Classified (packages : Packages Path) (sources : Sources Path)
    (invocation : Invocation Path) (outcome : Outcome) : Prop where
  /-- Code 2 stands for a failure. -/
  failure_iff : outcome.exitCode.toNat = 2 ↔
    ∃ message, FirstFailure packages sources invocation message
  /-- Of several failures the first is reported, in the first of the lines on the error stream. -/
  failure_report : ∀ message, FirstFailure packages sources invocation message →
    outcome.stdout = [] ∧ ∃ more, outcome.stderr = lines (("fatal: ".toList ++ message) :: more)
  /-- Code 3 stands for a literal that stays open. -/
  lexError_iff : outcome.exitCode.toNat = 3 ↔
    Sound packages sources invocation ∧ LeavesLiteralOpen sources invocation
  /-- A literal that stays open is reported in a line of its own. -/
  lexError_report : outcome.exitCode.toNat = 3 →
    outcome.stdout = [] ∧ ∃ message, outcome.stderr = lines ["error: ".toList ++ message]
  /-- Code 1 stands for a needle that is not found. -/
  notFound_iff : outcome.exitCode.toNat = 1 ↔
    Sound packages sources invocation ∧ FindsNothing packages sources invocation
  /-- Code 0 stands for everything else. -/
  success_iff : outcome.exitCode.toNat = 0 ↔
    Sound packages sources invocation ∧ ¬LeavesLiteralOpen sources invocation ∧
      ¬FindsNothing packages sources invocation
  /-- Nothing is reported without an error. -/
  silent : outcome.exitCode.toNat = 0 ∨ outcome.exitCode.toNat = 1 → outcome.stderr = []

/-! ## Phases of a run -/

variable {packages : Packages Path} {sources : Sources Path} {invocation : Invocation Path}
  {failure : Failure Path} {message : Text}

/-- A failure is fatal and reported by a message. -/
structure Tells (packages : Packages Path) (failure : Failure Path) (message : Text) : Prop where
  /-- The failure is no open literal. -/
  fatal : failure.exitCode = .failure
  /-- The message is on the line that reports the failure. -/
  line_eq : failure.line packages.shown = "fatal: ".toList ++ message

/-- A failure is told by one message only. -/
theorem Tells.unique {other : Text} (tells : Tells packages failure message)
    (also : Tells packages failure other) : message = other :=
  List.append_cancel_left (tells.line_eq.symm.trans also.line_eq)

/-- A fatal failure is reported by its message and by its causes. -/
theorem Tells.report_eq (tells : Tells packages failure message) :
    failure.report packages = ("fatal: ".toList ++ message) :: packages.causes failure := by
  rw [← tells.line_eq]
  cases failure with
  | lex cause =>
    have fatal : ExitCode.lexError = .failure := tells.fatal
    contradiction
  | configUnreadable | configInvalid | inputUnreadable | standardInputUnreadable | scan => rfl

/-- How the work of an invocation ends, one case for each exit code. -/
inductive Ends (packages : Packages Path) (sources : Sources Path) (invocation : Invocation Path) :
    Except (Failure Path) (ExitCode × Text) → Prop
  /-- Something the work needs fails. -/
  | failure {failure : Failure Path} {message : Text}
      (first : FirstFailure packages sources invocation message)
      (tells : Tells packages failure message) :
      Ends packages sources invocation (.error failure)
  /-- A literal stays open. -/
  | lexError {cause : Sql.LexError} (sound : Sound packages sources invocation)
      (stays : LeavesLiteralOpen sources invocation) :
      Ends packages sources invocation (.error (.lex cause))
  /-- A needle is not found. -/
  | notFound {printed : Text} (sound : Sound packages sources invocation)
      (nothing : FindsNothing packages sources invocation) :
      Ends packages sources invocation (.ok (.notFound, printed))
  /-- The work is done. -/
  | success {printed : Text} (sound : Sound packages sources invocation)
      (closed : ¬LeavesLiteralOpen sources invocation)
      (found : ¬FindsNothing packages sources invocation) :
      Ends packages sources invocation (.ok (.success, printed))

/-- The quote style of an invocation; a command that has none needs no document. -/
def Invocation.style (decoder : Yaml.Decoder) (sources : Sources Path)
    (invocation : Invocation Path) : Except (Failure Path) QuoteStyle :=
  match invocation.command.styleChanges? with
  | some changes => sources.style decoder invocation.config? changes
  | none => .ok {}

/-- When the style document fails there is no quote style. -/
theorem ConfigFails.style_eq (fails : ConfigFails packages sources invocation message) :
    ∃ failure, invocation.style packages.decoder sources = .error failure ∧
      Tells packages failure message := by
  cases fails with
  | @unreadable _ path styled named missing =>
    refine ⟨.configUnreadable path, ?_, rfl, rfl⟩
    simp [Invocation.style, styled, Sources.style, named, missing]
  | @invalid _ path _ styled named found visible wrong =>
    refine ⟨.configInvalid path, ?_, rfl, rfl⟩
    have decoded := QuoteStyle.decoded_of_none (Text.isBlankText_eq_false_iff.mpr visible)
      (decode?_eq_none_iff.mpr wrong)
    simp [Invocation.style, styled, Sources.style, named, found, decoded]

/-- When there is no quote style the style document fails. -/
theorem exists_configFails (missing : invocation.style packages.decoder sources = .error failure) :
    ∃ message, ConfigFails packages sources invocation message ∧
      Tells packages failure message := by
  rw [Invocation.style] at missing
  split at missing
  · rename_i changes styled
    rw [Sources.style.eq_def] at missing
    split at missing
    · contradiction
    · rename_i path named
      split at missing
      · rename_i noFile
        obtain rfl := Except.error.inj missing
        exact ⟨_, .unreadable styled named noFile, rfl, rfl⟩
      · rename_i document found
        split at missing
        · contradiction
        · rename_i cause wrong
          obtain rfl := Except.error.inj missing
          obtain ⟨visible, nothing⟩ := of_decoded_eq_error wrong
          exact ⟨_, .invalid styled named found visible nothing, rfl, rfl⟩
  · contradiction

variable {source : InputSource Path} {style : QuoteStyle} {text printed : Text}

/-- When the source of the text fails there is no text. -/
theorem InputFails.input_eq (fails : InputFails packages sources invocation message)
    (reads : invocation.command.input? = some source) :
    ∃ failure, sources.input source = .error failure ∧ Tells packages failure message := by
  cases fails with
  | @file _ path reads' noOperand named missing =>
    obtain rfl := Option.some.inj (reads.symm.trans reads')
    exact ⟨.inputUnreadable path, by simp only [Sources.input, noOperand, named, missing], rfl, rfl⟩
  | standardInput reads' noOperand noFile missing =>
    obtain rfl := Option.some.inj (reads.symm.trans reads')
    exact ⟨.standardInputUnreadable, by simp only [Sources.input, noOperand, noFile, missing], rfl,
      rfl⟩

/-- When there is no text the source of the text fails. -/
theorem exists_inputFails (reads : invocation.command.input? = some source)
    (missing : sources.input source = .error failure) :
    ∃ message, InputFails packages sources invocation message ∧ Tells packages failure message := by
  rw [Sources.input] at missing
  split at missing
  · contradiction
  · rename_i path noOperand named
    split at missing
    · contradiction
    · rename_i noFile
      obtain rfl := Except.error.inj missing
      exact ⟨_, .file reads noOperand named noFile, rfl, rfl⟩
  · rename_i noOperand noFile
    split at missing
    · contradiction
    · rename_i noText
      obtain rfl := Except.error.inj missing
      exact ⟨_, .standardInput reads noOperand noFile noText, rfl, rfl⟩

/-- Only a command that takes a text fails to read one. -/
theorem InputFails.exists_source (fails : InputFails packages sources invocation message) :
    ∃ source, invocation.command.input? = some source := by
  cases fails with
  | file reads _ _ _ => exact ⟨_, reads⟩
  | standardInput reads _ _ _ => exact ⟨_, reads⟩

/-- Nothing fails where there are a style, a text and an argument. -/
theorem sound_of (styled : ∀ other, ¬ConfigFails packages sources invocation other)
    (readable : ∀ other, ¬InputFails packages sources invocation other)
    (argument : ∀ other, ¬ArgumentEmpty invocation.command other) :
    Sound packages sources invocation := by
  intro message first
  cases first with
  | config fails => exact styled message fails
  | input _ fails => exact readable message fails
  | argument _ _ empty => exact argument message empty

/-- The work of a command begins with its style and its text. It ends in one of the four ways when
it does so wherever there are both. -/
theorem ends_of_phases {next : QuoteStyle → Text → Except (Failure Path) (ExitCode × Text)}
    (reads : invocation.command.input? = some source)
    (performs : invocation.perform packages.decoder sources = (do
      let style ← invocation.style packages.decoder sources
      let text ← sources.input source
      next style text))
    (finishes : ∀ style text, invocation.style packages.decoder sources = .ok style →
      sources.input source = .ok text →
      (∀ other, ¬ConfigFails packages sources invocation other) →
      (∀ other, ¬InputFails packages sources invocation other) →
      Ends packages sources invocation (next style text)) :
    Ends packages sources invocation (invocation.perform packages.decoder sources) := by
  rw [performs]
  cases styled : invocation.style packages.decoder sources with
  | error failure =>
    obtain ⟨message, fails, tells⟩ := exists_configFails styled
    exact .failure (.config fails) tells
  | ok style =>
    have hasStyle : ∀ other, ¬ConfigFails packages sources invocation other := by
      intro other fails
      obtain ⟨failure, noStyle, -⟩ := fails.style_eq
      rw [styled] at noStyle
      contradiction
    cases readable : sources.input source with
    | error failure =>
      obtain ⟨message, fails, tells⟩ := exists_inputFails reads readable
      exact .failure (.input hasStyle fails) tells
    | ok text =>
      have hasText : ∀ other, ¬InputFails packages sources invocation other := by
        intro other fails
        obtain ⟨failure, noText, -⟩ := fails.input_eq reads
        rw [readable] at noText
        contradiction
      exact finishes style text styled readable hasStyle hasText

/-- The work of a command without a quote style begins with its text. -/
theorem ends_of_input {next : Text → Except (Failure Path) (ExitCode × Text)}
    (unstyled : invocation.command.styleChanges? = none)
    (reads : invocation.command.input? = some source)
    (performs : invocation.perform packages.decoder sources = sources.input source >>= next)
    (finishes : ∀ text, sources.input source = .ok text →
      (∀ other, ¬ConfigFails packages sources invocation other) →
      (∀ other, ¬InputFails packages sources invocation other) →
      Ends packages sources invocation (next text)) :
    Ends packages sources invocation (invocation.perform packages.decoder sources) := by
  have style : invocation.style packages.decoder sources = .ok {} := by
    rw [Invocation.style, unstyled]
  have performsStyled : invocation.perform packages.decoder sources = (do
      let _ ← invocation.style packages.decoder sources
      let text ← sources.input source
      next text) := by
    rw [performs, style]
    rfl
  apply ends_of_phases reads performsStyled
  intro _ text _ readable hasStyle hasText
  exact finishes text readable hasStyle hasText

/-- The work of a command that neither lexes nor searches succeeds when nothing fails. -/
theorem ends_success (styled : ∀ other, ¬ConfigFails packages sources invocation other)
    (readable : ∀ other, ¬InputFails packages sources invocation other)
    (argument : ∀ other, ¬ArgumentEmpty invocation.command other)
    (lexes : ∀ input format, invocation.command ≠ .lex input format)
    (searches : ∀ needle input changes quiet,
      invocation.command ≠ .contains needle input changes quiet) :
    Ends packages sources invocation (.ok (.success, printed)) := by
  refine .success (sound_of styled readable argument) ?_ ?_
  · rintro ⟨input, format, _, isLex, -⟩
    exact lexes input format isLex
  · rintro ⟨needle, input, changes, quiet, _, _, _, isSearch, -⟩
    exact searches needle input changes quiet isSearch

/-- A search fails without a needle, and else ends with what it finds. -/
theorem ends_contains {config? : Option Path} {needle : Text} {changes : StyleChanges}
    {quiet : Bool} (styled : sources.style packages.decoder config? changes = .ok style)
    (readable : sources.input source = .ok text)
    (hasStyle : ∀ other,
      ¬ConfigFails packages sources ⟨config?, .contains needle source changes quiet⟩ other)
    (hasText : ∀ other,
      ¬InputFails packages sources ⟨config?, .contains needle source changes quiet⟩ other) :
    Ends packages sources ⟨config?, .contains needle source changes quiet⟩ (do
      let found ← (style.contains needle text).mapError .scan
      return (if found then .success else .notFound,
        if quiet then [] else lines [truth found])) := by
  by_cases empty : needle = []
  · subst empty
    exact .failure (.argument hasStyle hasText .needle) ⟨rfl, rfl⟩
  · have hasNeedle : ∀ other, ¬ArgumentEmpty (.contains needle source changes quiet) other := by
      rintro other ⟨⟩
      contradiction
    have sound := sound_of hasStyle hasText hasNeedle
    have matches_iff := style.occurs_iff_exists_boundary ⟨needle, empty⟩ text
    rw [style.contains_of_ne_nil empty]
    cases occurs : style.occurs ⟨needle, empty⟩ text with
    | true =>
      refine .success sound ?_ ?_
      · rintro ⟨_, _, _, isLex, -⟩
        contradiction
      · rintro ⟨_, _, _, _, base, style', text', isSearch, spells, changed, holds, absent⟩
        obtain ⟨rfl, rfl, rfl, rfl⟩ := Command.contains.inj isSearch
        have styled' := style_eq_ok_iff.mpr ⟨base, spells, changed⟩
        obtain rfl := Except.ok.inj (styled.symm.trans styled')
        obtain rfl := Except.ok.inj (readable.symm.trans (input_eq_ok_iff.mpr holds))
        exact absent (matches_iff.mp occurs)
    | false =>
      obtain ⟨base, spells, changed⟩ := style_eq_ok_iff.mp styled
      refine .notFound sound ⟨needle, source, changes, quiet, base, style, text, rfl, spells,
        changed, input_eq_ok_iff.mp readable, ?_⟩
      intro found
      have occurs' := matches_iff.mpr found
      rw [occurs] at occurs'
      contradiction

/-- A split fails without a token, and else succeeds. -/
theorem ends_split {config? : Option Path} {token : Text} {changes : StyleChanges}
    {options : SplitOptions} {format : Format}
    (hasStyle : ∀ other,
      ¬ConfigFails packages sources ⟨config?, .split token source changes options format⟩ other)
    (hasText : ∀ other,
      ¬InputFails packages sources ⟨config?, .split token source changes options format⟩ other) :
    Ends packages sources ⟨config?, .split token source changes options format⟩ (do
      let pieces ← (style.split token options text).mapError .scan
      return (.success, piecesReport format pieces)) := by
  by_cases empty : token = []
  · subst empty
    exact .failure (.argument hasStyle hasText .token) ⟨rfl, rfl⟩
  · have hasToken : ∀ other, ¬ArgumentEmpty (.split token source changes options format) other := by
      rintro other ⟨⟩
      contradiction
    rw [QuoteStyle.split, Pattern.ofText?_of_ne_nil empty]
    exact ends_success hasStyle hasText hasToken (by simp) (by simp)

/-- A lexer run succeeds when every literal is closed. -/
theorem ends_lex {config? : Option Path} {format : Format}
    (readable : sources.input source = .ok text)
    (hasStyle : ∀ other, ¬ConfigFails packages sources ⟨config?, .lex source format⟩ other)
    (hasText : ∀ other, ¬InputFails packages sources ⟨config?, .lex source format⟩ other) :
    Ends packages sources ⟨config?, .lex source format⟩ (do
      let tokens ← (Sql.tokens text).mapError .lex
      return (.success, tokensReport format tokens)) := by
  have sound := sound_of hasStyle hasText nofun
  have lexes_iff : (∃ found, Sql.tokens text = .ok found) ↔ Even (text.count '\'') :=
    Sql.exists_tokens_iff
  cases lexed : Sql.tokens text with
  | error cause =>
    refine .lexError sound ⟨source, format, text, rfl, input_eq_ok_iff.mp readable, ?_⟩
    rw [← Nat.not_even_iff_odd, ← lexes_iff]
    rintro ⟨found, lexed'⟩
    rw [lexed] at lexed'
    contradiction
  | ok found =>
    refine .success sound ?_ ?_
    · rintro ⟨_, _, text', isLex, holds, odd⟩
      obtain ⟨rfl, rfl⟩ := Command.lex.inj isLex
      obtain rfl := Except.ok.inj (readable.symm.trans (input_eq_ok_iff.mpr holds))
      exact Nat.not_even_iff_odd.mpr odd (lexes_iff.mp ⟨found, lexed⟩)
    · rintro ⟨_, _, _, _, _, _, _, isSearch, -⟩
      contradiction

/-- The work of every invocation ends in one of the four ways. -/
theorem perform_ends (packages : Packages Path) (sources : Sources Path)
    (invocation : Invocation Path) :
    Ends packages sources invocation (invocation.perform packages.decoder sources) := by
  obtain ⟨config?, command⟩ := invocation
  cases command with
  | contains needle input changes quiet =>
    apply ends_of_phases rfl rfl
    intro style text styled readable hasStyle hasText
    exact ends_contains styled readable hasStyle hasText
  | split token input changes options format =>
    apply ends_of_phases rfl rfl
    intro style text _ _ hasStyle hasText
    exact ends_split hasStyle hasText
  | sqlSplit input format =>
    apply ends_of_input rfl rfl rfl
    intro text _ hasStyle hasText
    exact ends_success hasStyle hasText nofun nofun nofun
  | lex input format =>
    apply ends_of_input rfl rfl rfl
    intro text readable hasStyle hasText
    exact ends_lex readable hasStyle hasText
  | truncate input skipped budget =>
    apply ends_of_input rfl rfl rfl
    intro text _ hasStyle hasText
    exact ends_success hasStyle hasText nofun nofun nofun
  | unquoted input changes rewrite =>
    apply ends_of_phases rfl rfl
    intro style text _ _ hasStyle hasText
    exact ends_success hasStyle hasText nofun nofun nofun
  | spans input changes format =>
    apply ends_of_phases rfl rfl
    intro style text _ _ hasStyle hasText
    exact ends_success hasStyle hasText nofun nofun nofun
  | backtick input =>
    apply ends_of_input rfl rfl rfl
    intro text _ hasStyle hasText
    exact ends_success hasStyle hasText nofun nofun nofun
  | version => exact ends_success nofun nofun nofun nofun nofun

/-! ## What the exit codes tell -/

/-- Only one message is said about a failure. -/
theorem FirstFailure.unique {other : Text}
    (first : FirstFailure packages sources invocation message)
    (also : FirstFailure packages sources invocation other) : message = other := by
  cases first with
  | config fails =>
    cases also with
    | config fails' =>
      obtain ⟨failure, noStyle, tells⟩ := fails.style_eq
      obtain ⟨failure', noStyle', tells'⟩ := fails'.style_eq
      obtain rfl := Except.error.inj (noStyle.symm.trans noStyle')
      exact tells.unique tells'
    | input styled _ => exact absurd fails (styled message)
    | argument styled _ _ => exact absurd fails (styled message)
  | input styled fails =>
    cases also with
    | config fails' => exact absurd fails' (styled other)
    | input _ fails' =>
      obtain ⟨source, reads⟩ := fails.exists_source
      obtain ⟨failure, noText, tells⟩ := fails.input_eq reads
      obtain ⟨failure', noText', tells'⟩ := fails'.input_eq reads
      obtain rfl := Except.error.inj (noText.symm.trans noText')
      exact tells.unique tells'
    | argument _ readable _ => exact absurd fails (readable message)
  | argument styled readable empty =>
    cases also with
    | config fails' => exact absurd fails' (styled other)
    | input _ fails' => exact absurd fails' (readable other)
    | argument _ _ empty' =>
      generalize invocation.command = command at empty empty'
      cases empty with
      | needle => cases empty'; rfl
      | token => cases empty'; rfl

/-- A literal stays open for `lex` only, and only `contains` finds nothing. -/
theorem LeavesLiteralOpen.not_findsNothing (stays : LeavesLiteralOpen sources invocation) :
    ¬FindsNothing packages sources invocation := by
  obtain ⟨_, _, _, isLex, -⟩ := stays
  rintro ⟨_, _, _, _, _, _, _, isSearch, -⟩
  rw [isLex] at isSearch
  contradiction

/-- The outcome of a failure is classified. -/
theorem classified_failure (first : FirstFailure packages sources invocation message)
    (tells : Tells packages failure message) :
    Classified packages sources invocation
      ⟨failure.exitCode, [], lines (failure.report packages)⟩ := by
  have code : failure.exitCode.toNat = 2 := by
    rw [tells.fatal]
    rfl
  have unsound : ¬Sound packages sources invocation := fun sound => sound message first
  constructor
  case failure_iff => exact iff_of_true code ⟨message, first⟩
  case failure_report =>
    intro other also
    obtain rfl := first.unique also
    exact ⟨rfl, _, congrArg lines tells.report_eq⟩
  all_goals simp [code, unsound]

/-- Where nothing fails there is no failure to report. -/
theorem Sound.not_exists_firstFailure (sound : Sound packages sources invocation) :
    ¬∃ message, FirstFailure packages sources invocation message :=
  not_exists.mpr sound

/-- The outcome of a literal that stays open is classified. -/
theorem classified_lexError (cause : Sql.LexError) (sound : Sound packages sources invocation)
    (stays : LeavesLiteralOpen sources invocation) :
    Classified packages sources invocation
      ⟨(Failure.lex cause : Failure Path).exitCode, [],
        lines ((Failure.lex cause).report packages)⟩ := by
  have code : (Failure.lex cause : Failure Path).exitCode.toNat = 3 := rfl
  have found : ¬FindsNothing packages sources invocation := stays.not_findsNothing
  constructor
  case lexError_report => exact fun _ => ⟨rfl, _, rfl⟩
  case failure_report => exact fun message first => absurd first (sound message)
  all_goals simp [code, sound, sound.not_exists_firstFailure, stays, found]

/-- The outcome of a needle that is not found is classified. -/
theorem classified_notFound (printed : Text) (sound : Sound packages sources invocation)
    (nothing : FindsNothing packages sources invocation) :
    Classified packages sources invocation ⟨.notFound, printed, []⟩ := by
  have code : ExitCode.notFound.toNat = 1 := rfl
  have closed : ¬LeavesLiteralOpen sources invocation := by
    intro stays
    exact stays.not_findsNothing nothing
  constructor
  case failure_report => exact fun message first => absurd first (sound message)
  all_goals simp [code, sound, sound.not_exists_firstFailure, nothing, closed]

/-- The outcome of work that is done is classified. -/
theorem classified_success (printed : Text) (sound : Sound packages sources invocation)
    (closed : ¬LeavesLiteralOpen sources invocation)
    (found : ¬FindsNothing packages sources invocation) :
    Classified packages sources invocation ⟨.success, printed, []⟩ := by
  have code : ExitCode.success.toNat = 0 := rfl
  constructor
  case failure_report => exact fun message first => absurd first (sound message)
  all_goals simp [code, sound, sound.not_exists_firstFailure, closed, found]

/-- The outcome of every invocation is classified. -/
theorem classified_runWith (packages : Packages Path) (sources : Sources Path)
    (invocation : Invocation Path) :
    Classified packages sources invocation (invocation.runWith packages sources) := by
  have ends := perform_ends packages sources invocation
  rw [Invocation.runWith]
  generalize invocation.perform packages.decoder sources = performed at ends
  cases ends with
  | failure first tells => exact classified_failure first tells
  | lexError sound stays => exact classified_lexError _ sound stays
  | notFound sound nothing => exact classified_notFound _ sound nothing
  | success sound closed found => exact classified_success _ sound closed found

/-! ## Runs -/

/-- A run without a quote style depends on the command only. -/
theorem runWith_eq_of_command_eq {invocation' : Invocation Path}
    (unstyled : invocation.command.styleChanges? = none)
    (same : invocation'.command = invocation.command) :
    invocation'.runWith packages sources = invocation.runWith packages sources := by
  obtain ⟨config?, command⟩ := invocation
  obtain ⟨config'?, command'⟩ := invocation'
  obtain rfl : command' = command := same
  cases command' with
  | contains | split | unquoted | spans => contradiction
  | sqlSplit | lex | truncate | backtick | version => rfl

/-- Accepted words that differ in the style document only have the same outcome when their command
has no quote style. -/
theorem DifferInConfig.run_eq {configured? configured'? : Option Text} {words words' : List Text}
    {accepted accepted' : Invocation Text} (differ : DifferInConfig words words')
    (accepts : Invocation.ofArguments configured? words = .ok accepted)
    (accepts' : Invocation.ofArguments configured'? words' = .ok accepted')
    (unstyled : accepted.command.styleChanges? = none) (sources : Sources Text) :
    accepted'.run sources = accepted.run sources :=
  runWith_eq_of_command_eq unstyled (differ.command_eq accepts accepts')

/-- Whatever the packages do and whatever files and streams hold, the exit code of a run tells what
has happened, and what fails first is reported. Without a quote style nothing depends on the style
document that is named. -/
theorem run_classified (packages : Packages Path) (sources : Sources Path)
    (invocation : Invocation Path) :
    Classified packages sources invocation (invocation.runWith packages sources) ∧
    (invocation.command.styleChanges? = none → ∀ config?,
      ({ invocation with config? } : Invocation Path).runWith packages sources =
        invocation.runWith packages sources) := by
  refine ⟨classified_runWith packages sources invocation, fun unstyled config? => ?_⟩
  exact runWith_eq_of_command_eq unstyled rfl

/-- A needle stands in a region of the style that a document spells out, between the quotes that
the standard input has before its line break. A document with a quote of two characters is reported
before an input that is missing and a needle that is empty, and no run of `lex` looks at it. -/
theorem run_classified_style_documents :
    let sources : Sources Text :=
      ⟨some "`a or b`\r\n".toList, fun path =>
        if path = "style.yaml".toList then some "quote_chars: [\"`\"]\n".toList
        else if path = "broken.yaml".toList then some "quote_chars: [\"``\"]\n".toList
        else if path = "script.sql".toList then some "it's".toList
        else none⟩
    let search : Invocation Text :=
      ⟨some "style.yaml".toList, .contains "or".toList .standardInput {} false⟩
    let broken : Invocation Text :=
      ⟨some "broken.yaml".toList, .contains [] (.file "gone.txt".toList) {} true⟩
    let script : Invocation Text :=
      ⟨some "broken.yaml".toList, .lex (.file "script.sql".toList) .text⟩
    (FindsNothing .standard sources search ∧ (search.runWith .standard sources).stderr = []) ∧
    (FirstFailure .standard sources broken "invalid scan config: broken.yaml".toList ∧
      ∃ more, (broken.runWith .standard sources).stderr =
        lines ("fatal: invalid scan config: broken.yaml".toList :: more)) ∧
    LeavesLiteralOpen sources script ∧ script.command.styleChanges? = none ∧
      ({ script with config? := none } : Invocation Text).runWith .standard sources =
        script.runWith .standard sources := by
  have reported {sources : Sources Text} {invocation : Invocation Text} {message : Text}
      (first : FirstFailure .standard sources invocation message) :
      FirstFailure .standard sources invocation message ∧
        ∃ more, (invocation.runWith .standard sources).stderr =
          lines (("fatal: ".toList ++ message) :: more) :=
    ⟨first, ((run_classified .standard sources invocation).1.failure_report message first).2⟩
  refine ⟨⟨?_, ?_⟩, ?_, ?_, rfl, ?_⟩
  · exact ((run_classified .standard _ _).1.notFound_iff.mp (by decide +kernel)).2
  · exact (run_classified .standard _ _).1.silent (.inr (by decide +kernel))
  · exact reported (.config
      (.invalid rfl rfl rfl ⟨':', by decide +kernel, by decide⟩
        (decode?_eq_none_iff.mp (by decide +kernel))))
  · exact ((run_classified .standard _ _).1.lexError_iff.mp (by decide +kernel)).2
  · exact (run_classified .standard _ _).2 rfl none

/-- A missing input is reported before an empty token, whatever is said about its cause. -/
example (causes : Failure Text → List Text) :
    Invocation.runWith { Packages.standard with causes } ⟨none, fun _ => none⟩
        ⟨none, .split [] (.file "in.txt".toList) {} {} .text⟩ =
      ⟨.failure, [], lines ("fatal: failed to read input: in.txt".toList ::
        causes (.inputUnreadable "in.txt".toList))⟩ := rfl

end CommandLine

end QuotedText
