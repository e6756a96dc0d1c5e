import TargetHelp.Proofs.Arguments.Interleaving

/-!
# Command lines of a request

A request is a command, with or without a target, and some flags that say where its input comes
from. Reading its command line gives the command, the target, and of each sort of flag the last
value; and nothing is left over.
-/

set_option autoImplicit false
set_option relaxedAutoImplicit false

namespace TargetHelp.Arguments

/-- A text that is no flag: it does not start with a dash, or it is one. -/
def IsWord (t : Text) : Prop := t.head? ≠ some dash ∨ t = [dash]

theorem IsWord.ne_separator {t : Text} (h : IsWord t) : t ≠ separator := by
  rintro rfl
  rcases h with h | h
  · exact h rfl
  · exact absurd h (by decide)

theorem formOf_of_isWord {g : Grammar} {t : Text} (h : IsWord t) : formOf g t = .ok .word :=
  if_pos h

/-- A flag, by its long or its short name, with the path behind it that input comes from or that
includes are searched in. -/
inductive SourceOption where
  | file (isLong : Bool) (path : Text)
  | directory (isLong : Bool) (path : Text)
  deriving DecidableEq, Repr

namespace SourceOption

def name : SourceOption → Text
  | file isLong _ => if isLong then "--file" else "-f"
  | directory isLong _ => if isLong then "--include-dir" else "-I"

def path : SourceOption → Text
  | file _ path => path
  | directory _ path => path

def flag : SourceOption → Flag
  | file _ _ => fileFlag
  | directory _ _ => includeFlag

def key : SourceOption → Text
  | file _ _ => "file"
  | directory _ _ => "include_dir"

def file? : SourceOption → Option Text
  | file _ path => some path
  | directory _ _ => none

def directory? : SourceOption → Option Text
  | file _ _ => none
  | directory _ path => some path

def written (option : SourceOption) : List Text := [option.name, option.path]

/-- The path of the input that the last of some options gives. -/
def lastFile? (options : List SourceOption) : Option Text := (options.filterMap file?).getLast?

/-- The directory for includes that the last of some options gives. -/
def lastDirectory? (options : List SourceOption) : Option Text :=
  (options.filterMap directory?).getLast?

/-- How a command reads an option. -/
def tokens (option : SourceOption) : List Token :=
  [⟨option.name, .flag option.flag option.name none⟩, ⟨option.path, .word⟩]

/-- What a reading of some options holds, with the values of other keys behind theirs. -/
def reading (options : List SourceOption) (others : Fields Json) (isFilled : Bool) : Read where
  values :=
    ("file", ((lastFile? options).map .str).getD .null) ::
    ("include_dir", ((lastDirectory? options).map .str).getD .null) ::
    ("parser", .null) :: others
  isFilled

theorem name_mem_sourceNames (option : SourceOption) : option.name ∈ sourceNames := by
  have hall : ∀ t ∈ (["-f", "--file", "-I", "--include-dir"] : List Text), t ∈ sourceNames := by
    decide
  refine hall _ ?_
  cases option with
  | file isLong path => cases isLong <;> simp [name]
  | directory isLong path => cases isLong <;> simp [name]

theorem reading_concat (options : List SourceOption) (option : SourceOption) (others : Fields Json)
    (isFilled : Bool) :
    (reading options others isFilled).set option.key (.str option.path) =
      reading (options ++ [option]) others isFilled := by
  unfold reading lastFile? lastDirectory?
  rw [List.filterMap_append, List.filterMap_append, List.getLast?_append, List.getLast?_append]
  cases option <;> rfl

end SourceOption

/-! ### What commands read -/

theorem tokens_map_text {g : Grammar} {ts : List Token}
    (h : ∀ t ∈ ts, t.text ≠ separator ∧ formOf g t.text = .ok t.form) :
    tokens g (ts.map Token.text) = .ok ts := by
  induction ts with
  | nil => rfl
  | cons t ts ih =>
    obtain ⟨⟨hne, hform⟩, hrest⟩ := List.forall_mem_cons.mp h
    rw [List.map_cons, tokens, if_neg hne, hform]
    change (tokens g (ts.map Token.text) >>= _) = _
    rw [ih hrest]
    rfl

/-- The grammars of the commands, which all know the flags for a source. -/
def commandGrammars : List Grammar := [listGrammar, describeGrammar]

theorem formOf_name {g : Grammar} (hg : g ∈ commandGrammars) (option : SourceOption) :
    formOf g option.name = .ok (.flag option.flag option.name none) := by
  simp only [commandGrammars, List.mem_cons, List.not_mem_nil, or_false] at hg
  rcases hg with rfl | rfl <;> cases option with
  | file isLong path => cases isLong <;> rfl
  | directory isLong path => cases isLong <;> rfl

/-- An option takes the word behind it as the value of its key. -/
theorem step_option {g : Grammar} {option : SourceOption} (h : IsWord option.path) (r : Read) :
    step g r ⟨option.name, .flag option.flag option.name none⟩ (some ⟨option.path, .word⟩) =
      .ok (r.set option.key (.str option.path), true) := by
  have hvalue : ¬ some option.path = some separator :=
    fun heq => h.ne_separator (Option.some.inj heq)
  have huses : usesOf g option.flag option.name none (some ⟨option.path, .word⟩) =
      .ok ([⟨option.flag, some option.path⟩], true) := by
    cases option <;> rfl
  have happly : Use.apply g r ⟨option.flag, some option.path⟩ =
      .ok (r.set option.key (.str option.path)) := by
    cases option <;> exact congrArg (fun v => Except.ok (r.set _ v)) (if_neg hvalue)
  unfold step
  dsimp only
  rw [huses]
  change ([Use.mk option.flag (some option.path)].foldlM (Use.apply g) r >>= _) = _
  rw [List.foldlM_cons, happly]
  rfl

/-- Options set the values of their keys one after the other. -/
theorem readTokens_options {g : Grammar} {options : List SourceOption}
    (h : ∀ option ∈ options, IsWord option.path) (first : List SourceOption)
    (others : Fields Json) (isFilled : Bool) (ts : List Token) :
    readTokens g [] (SourceOption.reading first others isFilled) false
        (options.flatMap SourceOption.tokens ++ ts) =
      readTokens g [] (SourceOption.reading (first ++ options) others isFilled) false ts := by
  induction options generalizing first with
  | nil => rw [List.append_nil]; rfl
  | cons option options ih =>
    obtain ⟨hpath, hrest⟩ := List.forall_mem_cons.mp h
    have hread := ih hrest (first ++ [option])
    rw [List.append_assoc, List.singleton_append] at hread
    rw [List.flatMap_cons, ← hread, ← SourceOption.reading_concat]
    have hword (next? : Option Token) :
        commandWord? [] ⟨option.name, .flag option.flag option.name none⟩ next? = none := rfl
    change readTokens g [] _ false (⟨option.name, _⟩ :: ⟨option.path, .word⟩ :: _) = _
    rw [readTokens, hword]
    dsimp only
    rw [List.head?_cons, step_option hpath]
    rfl

theorem tokens_options {g : Grammar} (hg : g ∈ commandGrammars) {options : List SourceOption}
    (h : ∀ option ∈ options, IsWord option.path) :
    ∀ t ∈ options.flatMap SourceOption.tokens,
      t.text ≠ separator ∧ formOf g t.text = .ok t.form := by
  intro t ht
  obtain ⟨option, hoption, ht⟩ := List.mem_flatMap.mp ht
  rcases List.mem_cons.mp ht with rfl | ht
  · have hname : ∀ u ∈ sourceNames, u ≠ separator := by decide
    exact ⟨hname _ option.name_mem_sourceNames, formOf_name hg option⟩
  · obtain rfl := List.mem_singleton.mp ht
    exact ⟨(h option hoption).ne_separator, formOf_of_isWord (h option hoption)⟩

theorem text_tokens (options : List SourceOption) :
    (options.flatMap SourceOption.tokens).map Token.text =
      options.flatMap SourceOption.written := by
  rw [List.map_flatMap]
  rfl

/-- A command line without separators is told apart if each argument is. -/
theorem exists_tokens {g : Grammar} {ts : List Text}
    (h : ∀ t ∈ ts, t ≠ separator ∧ ∃ form, formOf g t = .ok form) :
    ∃ toks, tokens g ts = .ok toks ∧ toks.map Token.text = ts := by
  induction ts with
  | nil => exact ⟨[], rfl, rfl⟩
  | cons t ts ih =>
    obtain ⟨⟨hne, form, hform⟩, hrest⟩ := List.forall_mem_cons.mp h
    obtain ⟨toks, htoks, htexts⟩ := ih hrest
    refine ⟨⟨t, form⟩ :: toks, ?_, by rw [List.map_cons, htexts]⟩
    rw [tokens, if_neg hne, hform]
    change (tokens g ts >>= _) = _
    rw [htoks]
    rfl

theorem IsLeftOver.formOf_mainGrammar {t : Text} (h : IsLeftOver t) :
    t ≠ separator ∧ ∃ form, formOf mainGrammar t = .ok form := by
  cases h with
  | word h => exact ⟨IsWord.ne_separator h, .word, formOf_of_isWord h⟩
  | source h =>
    have hunknown : ∀ u ∈ sourceNames, u ≠ separator ∧ formOf mainGrammar u = .ok .unknown := by
      unfold sourceNames
      simp only [List.forall_mem_cons]
      exact ⟨⟨by decide, rfl⟩, ⟨by decide, rfl⟩, ⟨by decide, rfl⟩, ⟨by decide, rfl⟩,
        ⟨by decide, rfl⟩, List.forall_mem_nil _⟩
    obtain ⟨hne, hform⟩ := hunknown t h
    exact ⟨hne, .unknown, hform⟩

/-- A command that reads all that is behind it adds its values to those of the program. -/
theorem readMain_command {name : Text} (hname : IsWord name) {read : List Text → Except Exit Read}
    (hcommand : Fields.get? name commands = some read) {ts : List Text}
    (hts : ∀ t ∈ ts, IsLeftOver t) {inner : Read} (hread : read ts = .ok inner)
    (hall : inner.leftOver = []) :
    readMain (name :: ts) = .ok (inner.values.foldl
      (fun values entry => Fields.set entry.1 entry.2 values)
      (Fields.set commandKey (.str name) mainGrammar.defaults)) := by
  obtain ⟨toks, htoks, htexts⟩ := exists_tokens fun t ht => (hts t ht).formOf_mainGrammar
  have htokens : tokens mainGrammar (name :: ts) = .ok (⟨name, .word⟩ :: toks) := by
    rw [tokens, if_neg hname.ne_separator, formOf_of_isWord hname]
    change (tokens mainGrammar ts >>= _) = _
    rw [htoks]
    rfl
  have hword : commandWord? commands ⟨name, .word⟩ toks.head? = some name := rfl
  have hknown : readKnown mainGrammar commands (name :: ts) = .ok {
      values := inner.values.foldl (fun values entry => Fields.set entry.1 entry.2 values)
        (Fields.set commandKey (.str name) mainGrammar.defaults)
      leftOver := [] ++ inner.leftOver } := by
    unfold readKnown
    rw [htokens]
    dsimp only
    rw [readTokens, hword]
    dsimp only
    rw [htexts, readCommand, hcommand]
    dsimp only
    rw [hread]
    rfl
  unfold readMain readAll
  rw [hknown, hall]
  rfl

/-! ### Requests -/

/-- What is asked of the program: the table of all targets, the descriptions of all, or those of
one. -/
inductive Request where
  | list
  | describeAll
  | describe (target : Text)
  deriving DecidableEq, Repr

namespace Request

def command : Request → Text
  | list => listCommand
  | describeAll => describeCommand
  | describe _ => describeCommand

def target? : Request → Option Text
  | describe target => some target
  | _ => none

/-- The command line of a request with some options before and some behind its target, if it has
one. -/
def arguments (request : Request) (before after : List SourceOption) : List Text :=
  request.command ::
    (before.flatMap SourceOption.written ++ request.target?.toList ++
      after.flatMap SourceOption.written)

/-- The values of the target's key, which only a description has. -/
def targetValues : Request → Fields Json
  | list => []
  | describeAll => [(targetKey, .null)]
  | describe target => [(targetKey, .str target)]

/-- The target of a request is no flag. -/
def IsSound (request : Request) : Prop := ∀ target ∈ request.target?, target.head? ≠ some dash

/-- The values that a request with some options comes to. -/
def values (request : Request) (options : List SourceOption) : Fields Json :=
  globalDefaults ++ (commandKey, .str request.command) ::
    (SourceOption.reading options request.targetValues false).values

variable {request : Request} {before after : List SourceOption}

theorem isLeftOver_arguments (hrequest : request.IsSound)
    (hbefore : ∀ option ∈ before, IsWord option.path)
    (hafter : ∀ option ∈ after, IsWord option.path) :
    ∀ t ∈ request.arguments before after, IsLeftOver t := by
  have hoptions {options : List SourceOption} (h : ∀ option ∈ options, IsWord option.path) :
      ∀ t ∈ options.flatMap SourceOption.written, IsLeftOver t := by
    intro t ht
    obtain ⟨option, hoption, ht⟩ := List.mem_flatMap.mp ht
    rcases List.mem_cons.mp ht with rfl | ht
    · exact .source option.name_mem_sourceNames
    · obtain rfl := List.mem_singleton.mp ht
      exact .word (h option hoption)
  have htarget : ∀ t ∈ request.target?.toList, IsLeftOver t := by
    intro t ht
    exact .word (Or.inl (hrequest t (Option.mem_toList.mp ht)))
  refine List.forall_mem_cons.mpr ⟨?_, List.forall_mem_append.mpr
    ⟨List.forall_mem_append.mpr ⟨hoptions hbefore, htarget⟩, hoptions hafter⟩⟩
  cases request with
  | list => exact .word (Or.inl (by decide))
  | describeAll => exact .word (Or.inl (by decide : describeCommand.head? ≠ some dash))
  | describe target => exact .word (Or.inl (by decide : describeCommand.head? ≠ some dash))

/-- A command reads its options. -/
theorem readKnown_options {g : Grammar} (hg : g ∈ commandGrammars) {others : Fields Json}
    (hdefaults : g.defaults = (SourceOption.reading [] others false).values)
    {options : List SourceOption} (h : ∀ option ∈ options, IsWord option.path) :
    readKnown g [] (options.flatMap SourceOption.written) =
      .ok (SourceOption.reading options others false) := by
  have htokens := tokens_map_text (tokens_options hg h)
  have hread := readTokens_options (g := g) h [] others false []
  rw [List.append_nil] at hread
  unfold readKnown
  rw [← text_tokens, htokens, hdefaults]
  exact hread

/-- A description reads its options and takes its target from among them. -/
theorem readKnown_describe {target : Text} (htarget : target.head? ≠ some dash)
    (hbefore : ∀ option ∈ before, IsWord option.path)
    (hafter : ∀ option ∈ after, IsWord option.path) :
    readKnown describeGrammar [] (before.flatMap SourceOption.written ++ [target] ++
        after.flatMap SourceOption.written) =
      .ok (SourceOption.reading (before ++ after) [(targetKey, .str target)] true) := by
  have hword : IsWord target := Or.inl htarget
  have hg : describeGrammar ∈ commandGrammars := List.mem_cons_of_mem _ List.mem_cons_self
  let ts : List Token := before.flatMap SourceOption.tokens ++ (⟨target, .word⟩ ::
    after.flatMap SourceOption.tokens)
  have htexts : ts.map Token.text = before.flatMap SourceOption.written ++ [target] ++
      after.flatMap SourceOption.written := by
    rw [List.map_append, List.map_cons, text_tokens, text_tokens, List.append_assoc]
    rfl
  have htokens : tokens describeGrammar (ts.map Token.text) = .ok ts := by
    refine tokens_map_text (List.forall_mem_append.mpr ⟨tokens_options hg hbefore,
      List.forall_mem_cons.mpr ⟨⟨hword.ne_separator, formOf_of_isWord hword⟩,
        tokens_options hg hafter⟩⟩)
  have hstep : step describeGrammar (SourceOption.reading before [(targetKey, .null)] false)
      ⟨target, .word⟩ (after.flatMap SourceOption.tokens).head? =
        .ok (SourceOption.reading before [(targetKey, .str target)] true, false) := by
    cases after with
    | nil => rfl
    | cons option options => rfl
  have hread := readTokens_options (g := describeGrammar) hbefore [] [(targetKey, .null)] false
    (⟨target, .word⟩ :: after.flatMap SourceOption.tokens)
  have hlast := readTokens_options (g := describeGrammar) hafter before
    [(targetKey, .str target)] true []
  rw [List.append_nil] at hlast
  unfold readKnown
  rw [← htexts, htokens]
  have hplain : commandWord? [] ⟨target, .word⟩ (after.flatMap SourceOption.tokens).head? = none :=
    rfl
  refine hread.trans ?_
  rw [List.nil_append, readTokens, hplain]
  dsimp only
  rw [hstep]
  exact hlast

/-- The command line of a request is read as its values. -/
theorem readMain_arguments (hrequest : request.IsSound)
    (hbefore : ∀ option ∈ before, IsWord option.path)
    (hafter : ∀ option ∈ after, IsWord option.path) :
    readMain (request.arguments before after) = .ok (request.values (before ++ after)) := by
  have hrest : ∀ t ∈ before.flatMap SourceOption.written ++ request.target?.toList ++
      after.flatMap SourceOption.written, IsLeftOver t :=
    (List.forall_mem_cons.mp (isLeftOver_arguments hrequest hbefore hafter)).2
  have hall : ∀ option ∈ before ++ after, IsWord option.path :=
    List.forall_mem_append.mpr ⟨hbefore, hafter⟩
  have hjoin : before.flatMap SourceOption.written ++ [] ++ after.flatMap SourceOption.written =
      (before ++ after).flatMap SourceOption.written := by
    rw [List.append_nil, List.flatMap_append]
  have hdescribe : IsWord describeCommand := Or.inl (by decide)
  cases request with
  | list =>
    have hdefaults : listGrammar.defaults = (SourceOption.reading [] [] false).values := rfl
    have hread := readKnown_options List.mem_cons_self hdefaults hall
    rw [← hjoin] at hread
    exact readMain_command (Or.inl (by decide : listCommand.head? ≠ some dash)) rfl hrest hread rfl
  | describeAll =>
    have hdefaults : describeGrammar.defaults =
        (SourceOption.reading [] [(targetKey, .null)] false).values := rfl
    have hread := readKnown_options (List.mem_cons_of_mem _ List.mem_cons_self) hdefaults hall
    rw [← hjoin] at hread
    exact readMain_command hdescribe rfl hrest hread rfl
  | describe target =>
    have hread := readKnown_describe (hrequest target rfl) hbefore hafter
    exact readMain_command hdescribe rfl hrest hread rfl

end Request

end TargetHelp.Arguments
