import QuotedText.CommandLine.Invocation

/-!
# What words make up

The words of a run are a command with arguments before it and behind it (`CommandLine.Gives`).
Accepted words determine the invocation, and its style document is the one that is named nearest to
the command's own arguments (`CommandLine.exists_gives`). The style document is no part of the
command, so words that differ in nothing else have the same command
(`CommandLine.DifferInConfig.command_eq`).
-/

namespace QuotedText.CommandLine

/-! ## What a command works with -/

namespace Command

variable {Path : Type}

/-- Where a command takes its text from, if it takes one. -/
def input? : Command Path → Option (InputSource Path)
  | .contains _ input _ _ | .split _ input _ _ _ | .sqlSplit input _ | .lex input _
  | .truncate input _ _ | .unquoted input _ _ | .spans input _ _ | .backtick input => some input
  | .version => none

/-- What a command changes about its quote style, if it has one. -/
def styleChanges? : Command Path → Option StyleChanges
  | .contains _ _ changes _ | .split _ _ changes _ _ | .unquoted _ changes _
  | .spans _ changes _ => some changes
  | .sqlSplit _ _ | .lex _ _ | .truncate _ _ _ | .backtick _ | .version => none

end Command

/-! ## Reading words -/

variable {invocation : Invocation Text}

/-- Words give a command, with arguments before it and arguments behind it. -/
def Gives (words : List Text) (outer : Arguments) (name : CommandName) (given : Arguments) : Prop :=
  ∃ word more left, readArguments .root {} words = .ok (outer, word :: more) ∧
    CommandName.ofText? word = some name ∧
    readArguments (.command name) {} more = .ok (given, left)

/-- Two lists of words say the same but for the path of the style document. -/
def DifferInConfig (words words' : List Text) : Prop :=
  ∃ outer outer' name given config?, Gives words outer name given ∧
    Gives words' outer' name { given with config? }

/-- Words give one command and its arguments. -/
theorem Gives.unique {words : List Text} {outer outer' given given' : Arguments}
    {name name' : CommandName} (gives : Gives words outer name given)
    (also : Gives words outer' name' given') : name = name' ∧ given = given' := by
  obtain ⟨word, more, left, before, named, behind⟩ := gives
  obtain ⟨word', more', left', before', named', behind'⟩ := also
  obtain ⟨rfl, split⟩ := Prod.mk.inj (Except.ok.inj (before.symm.trans before'))
  obtain ⟨rfl, rfl⟩ := List.cons.inj split
  obtain rfl := Option.some.inj (named.symm.trans named')
  obtain ⟨rfl, rfl⟩ := Prod.mk.inj (Except.ok.inj (behind.symm.trans behind'))
  exact ⟨rfl, rfl⟩

/-- The path of the style document is the one behind the command, else the one before it, else that
of the environment. -/
theorem eq_of_configPath {outer? inner? configured? config? : Option Text}
    (chosen : Invocation.configPath outer? inner? configured? = .ok config?) :
    config? = inner?.or (outer?.or configured?) := by
  rw [Invocation.configPath.eq_def] at chosen
  split at chosen
  · exact (Except.ok.inj chosen).symm
  · split at chosen
    · contradiction
    · exact (Except.ok.inj chosen).symm

/-- A reading goes on when its first part has a result. -/
theorem bind_eq_ok_iff {α β : Type} {first : Except Stop α} {next : α → Except Stop β}
    {result : β} :
    first >>= next = .ok result ↔ ∃ value, first = .ok value ∧ next value = .ok result := by
  cases first with
  | error stop => simp [bind, Except.bind]
  | ok value => simp [bind, Except.bind]

/-- What is there is no usage error. -/
theorem orUsage_eq_ok_iff {α : Type} {value? : Option α} {value : α} :
    orUsage value? = .ok value ↔ value? = some value := by
  cases value? with
  | none => simp [orUsage]
  | some found => simp [orUsage]

/-- Accepted words give the arguments that make up the invocation. -/
theorem exists_gives {configured? : Option Text} {words : List Text}
    (accepted : Invocation.ofArguments configured? words = .ok invocation) :
    ∃ outer name given, Gives words outer name given ∧
      invocation.config? = given.config?.or (outer.config?.or configured?) ∧
      given.command? name = some invocation.command := by
  rw [Invocation.ofArguments, bind_eq_ok_iff] at accepted
  obtain ⟨⟨outer, rest⟩, before, accepted⟩ := accepted
  cases rest with
  | nil => contradiction
  | cons word more =>
    dsimp only at accepted
    by_cases help : word = "help".toList
    · rw [if_pos help] at accepted
      contradiction
    · rw [if_neg help, bind_eq_ok_iff] at accepted
      obtain ⟨name, named, accepted⟩ := accepted
      rw [bind_eq_ok_iff] at accepted
      obtain ⟨⟨given, left⟩, behind, accepted⟩ := accepted
      dsimp only at accepted
      rw [bind_eq_ok_iff] at accepted
      obtain ⟨config?, chosen, accepted⟩ := accepted
      rw [bind_eq_ok_iff] at accepted
      obtain ⟨command, made, accepted⟩ := accepted
      obtain rfl := Except.ok.inj accepted
      rw [orUsage_eq_ok_iff] at named made
      have gives : Gives words outer name given := ⟨word, more, left, before, named, behind⟩
      exact ⟨outer, name, given, gives, eq_of_configPath chosen, made⟩

/-- Accepted words that differ in the style document only have the same command. -/
theorem DifferInConfig.command_eq {configured? configured'? : Option Text}
    {words words' : List Text} {invocation' : Invocation Text}
    (differ : DifferInConfig words words')
    (accepted : Invocation.ofArguments configured? words = .ok invocation)
    (accepted' : Invocation.ofArguments configured'? words' = .ok invocation') :
    invocation'.command = invocation.command := by
  obtain ⟨_, _, name, given, config?, gives, gives'⟩ := differ
  obtain ⟨_, _, _, same, -, made⟩ := exists_gives accepted
  obtain ⟨rfl, rfl⟩ := gives.unique same
  obtain ⟨_, _, _, same', -, made'⟩ := exists_gives accepted'
  obtain ⟨rfl, rfl⟩ := gives'.unique same'
  -- The path is no part of the command.
  have unchanged : ({ given with config? } : Arguments).command? name = given.command? name := rfl
  exact Option.some.inj (made'.symm.trans (unchanged.trans made))

end QuotedText.CommandLine
