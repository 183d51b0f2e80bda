import RouteSchema.Proofs.Exiting
import RouteSchema.Proofs.Muting

/-!
# Flags that only concern messages

With `--quiet` a command line shows no informational messages, and with `--verbose` it also shows
what is meant for debugging. Neither changes anything else that it does.

* `Act.Informs` and `Act.Debugs` tell these messages from all others; they are told apart by how
  they begin (`Shown.front`).
* `Cli.Options.Leads`: arguments that are whole options. A flag between such arguments and the
  command is read as given and changes nothing else (`Cli.Line.read_flag`).
* `flags_only_mute`: a command line with one of the flags against the same without it.
-/

namespace RouteSchema

open Stateful Http

/-! ## Kinds of messages -/

/-- An act shows an informational message. -/
inductive Act.Informs : Act → Prop
  | plain {text : String} (h : Informational text) : Informs (.showing (.err (text ++ "\n")))
  | styled {text : String} (h : Informational text) :
      Informs (.showing (.styledErr (.text (Report.escape text))))

/-- An act shows a message for debugging, or writes to a log. -/
inductive Act.Debugs : Act → Prop
  | plain (text : String) : Debugs (.showing (.err ("[debug] " ++ text ++ "\n")))
  | styled (text : String) :
      Debugs (.showing (.styledErr (.text ("[dim]\\[debug] " ++ Report.escape text ++ "[/dim]"))))
  | log (channel message : String) : Debugs (.log channel message)

theorem Act.Informs.isMessage {a : Act} (h : a.Informs) : a.isMessage = true := by
  cases h <;> rfl

theorem Act.Debugs.isMessage {a : Act} (h : a.Debugs) : a.isMessage = true := by
  cases h <;> rfl

/-! ## How messages begin -/

/-- The first characters of a message on the standard error. -/
def Shown.front : Shown → List Char
  | .err text | .styledErr (.text text) => text.toList.take 3
  | _ => []

/-- How informational messages begin, as they are or with tags that do not count. -/
def informingFronts : List (List Char) :=
  [['H', 'T', 'T'], ['[', 'd', 'r'], ['\\', '[', 'd'], [' ', ' ', 'H'], [' ', ' ', 'P'],
    [' ', ' ', 'B']]

/-- The end of a text is stripped no further than to a character that is not blank. -/
theorem stripEnd_toList {s : String} (front : List Char) (last : Char) {rest : List Char}
    (h : s.toList = front ++ last :: rest) (full : Text.isBlank last = false) :
    ∃ rest', (Text.stripEnd s).toList = front ++ last :: rest' := by
  have kept : (last :: front.reverse).dropWhile Text.isBlank = last :: front.reverse :=
    List.dropWhile_cons_of_neg (by simp [full])
  have reversed : s.toList.reverse = rest.reverse ++ (last :: front.reverse) := by simp [h]
  rw [Text.stripEnd, String.toList_ofList, Text.dropEndWhile, reversed, List.dropWhile_append, kept]
  split
  · exact ⟨[], by simp⟩
  · exact ⟨(rest.reverse.dropWhile Text.isBlank).reverse, by simp⟩

theorem escape_toList (s : String) :
    ∃ rest, (Report.escape s).toList = Report.escapeTags 0 s.toList ++ rest := by
  unfold Report.escape
  dsimp only
  split
  · exact ⟨[], by simp⟩
  · exact ⟨['\\'], by simp⟩
  · exact ⟨[], by simp⟩

theorem front_informational {text : String} (h : Informational text) :
    (Shown.err (text ++ "\n")).front ∈ informingFronts ∧
      (Shown.styledErr (.text (Report.escape text))).front ∈ informingFronts := by
  obtain ⟨rest, escaped⟩ := escape_toList text
  rw [Shown.front, Shown.front, escaped]
  cases h with
  | status r =>
    have unstripped : ("HTTP " ++ toString r.status ++ " " ++ r.reason).toList =
        ['H', 'T', 'T'] ++ 'P' :: ' ' :: (toString r.status ++ " " ++ r.reason).toList := by simp
    obtain ⟨rest', stripped⟩ := stripEnd_toList _ _ unstripped (by decide)
    have line : (Cli.Context.statusLine r).toList = 'H' :: 'T' :: 'T' :: 'P' :: rest' := stripped
    simp [line, Report.escapeTags, Report.isTag, informingFronts]
  | rehearsal method address =>
    simp [Report.escapeTags, Report.isTag, Report.beginsTag, informingFronts]
  | header key value =>
    simp [Report.escapeTags, Report.isTag, informingFronts]
  | param key value => simp [Report.escapeTags, Report.isTag, informingFronts]
  | body kind value => simp [Report.escapeTags, Report.isTag, informingFronts]

/-- How errors and warnings begin. -/
def otherFronts : List (List Char) :=
  [['E', 'r', 'r'], ['[', 'b', 'o'], ['W', 'a', 'r'], ['[', 'y', 'e']]

/-- How messages for debugging begin. -/
def debuggingFronts : List (List Char) := [['[', 'd', 'e'], ['[', 'd', 'i']]

theorem front_of_informs {m : Shown} (h : Act.Informs (.showing m)) :
    m.front ∈ informingFronts := by
  cases h with
  | plain h => exact (front_informational h).1
  | styled h => exact (front_informational h).2

theorem front_of_debugs {m : Shown} (h : Act.Debugs (.showing m)) : m.front ∈ debuggingFronts := by
  cases h <;> simp [Shown.front, debuggingFronts]

theorem front_of_error {r : Report} {text : String} {m : Shown}
    (h : m ∈ r.error text ∨ m ∈ r.warning text) : m.front ∈ otherFronts := by
  simp only [Report.error, Report.warning, Report.message] at h
  split at h
  all_goals
    rcases h with h | h
    all_goals
      rw [List.mem_singleton.1 h]
      simp [Shown.front, otherFronts]

/-- Errors and warnings neither inform nor debug. -/
theorem not_informs_error {r : Report} {text : String} {m : Shown}
    (h : m ∈ r.error text ∨ m ∈ r.warning text) :
    ¬Act.Informs (.showing m) ∧ ¬Act.Debugs (.showing m) := by
  have disjoint : ∀ front ∈ otherFronts, front ∉ informingFronts ∧ front ∉ debuggingFronts := by
    decide
  obtain ⟨other, another⟩ := disjoint _ (front_of_error h)
  exact ⟨mt front_of_informs other, mt front_of_debugs another⟩

theorem not_debugs_of_informs {m : Shown} (h : Act.Informs (.showing m)) :
    ¬Act.Debugs (.showing m) := by
  have disjoint : ∀ front ∈ informingFronts, front ∉ debuggingFronts := by decide
  exact mt front_of_debugs (disjoint _ (front_of_informs h))

theorem informs_of_info {r : Report} {text : String} (h : Informational text) :
    ∀ m ∈ r.info text, Act.Informs (.showing m) := by
  unfold Report.info Report.message
  split
  · exact List.forall_mem_nil _
  · split
    · exact List.forall_mem_singleton.2 (.plain h)
    · exact List.forall_mem_singleton.2 (.styled h)

theorem debugs_of_debug {r : Report} {text : String} :
    ∀ m ∈ r.debug text, Act.Debugs (.showing m) := by
  unfold Report.debug Report.message
  split
  · split
    · exact List.forall_mem_singleton.2 (.plain text)
    · exact List.forall_mem_singleton.2 (.styled text)
  · exact List.forall_mem_nil _

/-! ## Quieter reports -/

section

variable {P : Act → Prop} [DecidablePred P] {shown : List Shown}

theorem filter_of_forall_not (h : ∀ m ∈ shown, ¬P (.showing m)) :
    (shown.map Act.showing).filter (fun a => !decide (P a)) = shown.map Act.showing := by
  refine List.filter_eq_self.2 fun a ha => ?_
  obtain ⟨m, hm, rfl⟩ := List.mem_map.1 ha
  simp [h m hm]

theorem filter_of_forall (h : ∀ m ∈ shown, P (.showing m)) :
    (shown.map Act.showing).filter (fun a => !decide (P a)) = [] := by
  refine List.filter_eq_nil_iff.2 fun a ha => ?_
  obtain ⟨m, hm, rfl⟩ := List.mem_map.1 ha
  simp [h m hm]

theorem keeps_of_messages (messages : ∀ a, P a → a.isMessage = true) {a : Act}
    (other : a.isMessage = false) : (!decide (P a)) = true := by
  have kept : ¬P a := fun h => by simp [messages a h] at other
  simp [kept]

end

open Classical in
/-- A quiet report leaves out the informational messages. -/
theorem quieter_quiet (r : Report) :
    Quieter (fun a => !decide a.Informs) r { r with quiet := true } where
  form := rfl
  colourless := rfl
  others _ other := keeps_of_messages (fun _ => Act.Informs.isMessage) other
  errors text m hm := by simp [(not_informs_error (.inl hm)).1]
  info text h := filter_of_forall (informs_of_info h)
  debug text := filter_of_forall_not fun m hm informs =>
    not_debugs_of_informs informs (debugs_of_debug m hm)
  note channel message := by
    have kept : ¬(Act.log channel message).Informs := nofun
    dsimp only
    split
    · simp [kept]
    · rfl

open Classical in
/-- A verbose report shows more than the same without it, namely what is meant for debugging. -/
theorem quieter_verbose {r : Report} (plain : r.verbose = false) :
    Quieter (fun a => !decide a.Debugs) { r with verbose := true } r where
  form := rfl
  colourless := rfl
  others _ other := keeps_of_messages (fun _ => Act.Debugs.isMessage) other
  errors text m hm := by simp [(not_informs_error (.inl hm)).2]
  info text h := filter_of_forall_not fun m hm =>
    not_debugs_of_informs (informs_of_info (r := { r with verbose := true }) h m hm)
  debug text := by
    have nothing : r.debug text = [] := by simp [Report.debug, plain]
    rw [nothing, filter_of_forall debugs_of_debug]
    rfl
  note channel message := by
    have debugs : (Act.log channel message).Debugs := .log channel message
    simp [plain, debugs]

/-! ## Whole options -/

namespace Cli

/-- Arguments that are whole options, each with its value, and what they give. -/
inductive Options.Leads (specs : List OptionSpec) : List String → List (String × String) → Prop
  | nil : Leads specs [] []
  | whole {arg : String} {args : List String} {given rest : List (String × String)}
      (proper : arg ≠ "--") (option : looksLikeOption arg = true)
      (reads : Options.read specs arg = some (given, none)) (h : Leads specs args rest) :
      Leads specs (arg :: args) (given ++ rest)
  | valued {arg value name : String} {args : List String} {given rest : List (String × String)}
      (proper : arg ≠ "--") (option : looksLikeOption arg = true)
      (reads : Options.read specs arg = some (given, some name)) (h : Leads specs args rest) :
      Leads specs (arg :: value :: args) (given ++ (name, value) :: rest)

/-- Whole options are split off, whatever comes after them. -/
theorem Options.Leads.split {specs : List OptionSpec} {before : List String}
    {given : List (String × String)} (h : Options.Leads specs before given) (mixed : Bool)
    (after : List String) : Options.split specs mixed (before ++ after) =
      (Options.split specs mixed after).map fun s => { s with given := given ++ s.given } := by
  induction h with
  | nil =>
    rw [List.nil_append]
    cases Options.split specs mixed after <;> rfl
  | whole proper option reads h ih =>
    rw [List.cons_append, Options.split.eq_def]
    dsimp only
    rw [if_neg (mt beq_iff_eq.1 proper), if_pos option, reads]
    -- The match is on the arguments that follow, too.
    generalize _ ++ after = following at ih ⊢
    cases following with
    | nil =>
      dsimp only
      rw [ih]
      cases Options.split specs mixed after <;> simp
    | cons =>
      dsimp only
      rw [ih]
      cases Options.split specs mixed after <;> simp
  | valued proper option reads h ih =>
    rw [List.cons_append, List.cons_append, Options.split.eq_def]
    dsimp only
    rw [if_neg (mt beq_iff_eq.1 proper), if_pos option, reads]
    dsimp only
    rw [ih]
    cases Options.split specs mixed after <;> simp

/-- What a command line asks for, under other options. -/
def Line.withShared (change : Shared → Shared) : Line → Line
  | .command shared c => .command (change shared) c
  | line => line

theorem withShared_readCommand (change : Shared → Shared) (under : Shared) (word : String)
    (args : List String) :
    Line.readCommand (change under) word args =
      (Line.readCommand under word args).withShared change := by
  have arguments : ∀ options (make : Options.Split → Option Command),
      Line.arguments options args (change under) make =
        (Line.arguments options args under make).withShared change := by
    intro options make
    unfold Line.arguments
    split
    · rfl
    · split
      · rfl
      · split <;> rfl
  unfold Line.readCommand
  simp only [arguments]
  split
  · rfl
  split
  · rfl
  split
  · rfl
  split <;> rfl

/-- An option that is a flag: its long form, its name, and how it changes the options that all
commands share. -/
structure Flag (form name : String) (change : Shared → Shared) : Prop where
  leads : Options.Leads Line.sharedOptions [form] [(name, "")]
  other : (name == "version" || name == "help") = false
  changes : ∀ before after rest, Line.shared ⟨before ++ (name, "") :: after, rest⟩ =
    change (Line.shared ⟨before ++ after, rest⟩)

/-- A flag after whole options is given, and nothing else changes. -/
theorem Line.read_flag {form name : String} {change : Shared → Shared}
    (flag : Flag form name change) {before after : List String} {given : List (String × String)}
    (leads : Options.Leads sharedOptions before given) (asked : before ++ after ≠ []) :
    Line.read (before ++ form :: after) = (Line.read (before ++ after)).withShared change := by
  have full : (before ++ form :: after).isEmpty = false := by simp
  have full' : (before ++ after).isEmpty = false := by simpa using asked
  have flagged : Options.split sharedOptions false (form :: after) = _ :=
    flag.leads.split false after
  rw [read, read, full, full', leads.split, leads.split, flagged]
  cases Options.split sharedOptions false after with
  | none => rfl
  | some s =>
    have same : ((given ++ ([(name, "")] ++ s.given)).map Prod.fst).find?
        (fun name => name == "version" || name == "help") =
          ((given ++ s.given).map Prod.fst).find?
            fun name => name == "version" || name == "help" := by
      simp [List.find?_append, flag.other]
    dsimp only [Option.map_some]
    rw [if_neg Bool.false_ne_true, if_neg Bool.false_ne_true, same]
    split
    · rfl
    · rfl
    · cases s.rest with
      | nil => rfl
      | cons word args =>
        rw [List.singleton_append, flag.changes]
        exact withShared_readCommand _ _ _ _

theorem flag_quiet : Flag "--quiet" "quiet" fun shared => { shared with quiet := true } where
  leads := by
    have reads : Options.read Line.sharedOptions "--quiet" = some ([("quiet", "")], none) := by
      decide +kernel
    exact .whole (by decide) (by decide +kernel) reads .nil
  other := by decide
  changes before after rest := by
    simp [Line.shared, Options.Split.has, Options.Split.value?, Options.Split.values]

theorem flag_verbose :
    Flag "--verbose" "verbose" fun shared => { shared with verbose := true } where
  leads := by
    have reads : Options.read Line.sharedOptions "--verbose" = some ([("verbose", "")], none) := by
      decide +kernel
    exact .whole (by decide) (by decide +kernel) reads .nil
  other := by decide
  changes before after rest := by
    simp [Line.shared, Options.Split.has, Options.Split.value?, Options.Split.values]

/-! ## Command lines -/

section

variable {keep : Act → Bool} {library : Library} {terminal : Bool} {s : Run}

theorem filter_conclusion {r r' : Report} (q : Quieter keep r r') (result : Except Failure Unit) :
    (conclusion r result).filter keep = conclusion r' result := by
  have same : ∀ text, r'.error text = r.error text := fun text => by
    simp only [Report.error, Report.message, q.colourless]
  have kept : ∀ text, ((r.error text).map Act.showing).filter keep =
      (r.error text).map Act.showing := by
    intro text
    refine List.filter_eq_self.2 fun a ha => ?_
    obtain ⟨m, hm, rfl⟩ := List.mem_map.1 ha
    exact q.errors text m hm
  cases result with
  | ok => rfl
  | error f =>
    simp only [conclusion, account, same]
    cases f.exitCode? with
    | some => exact kept _
    | none =>
      dsimp only
      rw [List.filter_cons_of_pos (q.others _ rfl), kept]

/-- A line without a command shows one thing on the standard output, or the usage. -/
theorem adds_runLine_of_none [Platform] (library : Library) (terminal : Bool) {args : List String}
    (none : ∀ shared c, Line.read args ≠ .command shared c) :
    ∃ code a, a.isMessage = false ∧ ∀ args', Line.read args' = Line.read args →
      ∀ s, RunM.Adds (runLine library terminal args') s (.ok code) [a] := by
  have runs : ∀ args', Line.read args' = Line.read args → runLine library terminal args' =
      runLine library terminal args := fun args' same => by rw [runLine, runLine, same]
  suffices ∃ code a, a.isMessage = false ∧
      ∀ s, RunM.Adds (runLine library terminal args) s (.ok code) [a] by
    obtain ⟨code, a, other, adds⟩ := this
    exact ⟨code, a, other, fun args' same s => runs args' same ▸ adds s⟩
  unfold runLine
  cases line : Line.read args with
  | version => exact ⟨_, .showing (.out _), rfl, fun _ => rfl⟩
  | help => exact ⟨_, .help, rfl, fun _ => rfl⟩
  | nothing => exact ⟨_, .help, rfl, fun _ => rfl⟩
  | misuse => exact ⟨_, .usage, rfl, fun _ => rfl⟩
  | command shared c => exact absurd line (none shared c)

/-- Two lines that ask for the same, a command under options that make for a quieter report. -/
inductive Line.Quieter (keep : Act → Bool) (library : Library) (terminal : Bool) :
    Line → Line → Prop
  | same {line : Line} (none : ∀ shared c, line ≠ .command shared c) :
      Quieter keep library terminal line line
  | command {shared shared' : Shared} (c : Command)
      (h : ∀ s, Context.Quieter keep (.of library terminal shared s)
        (.of library terminal shared' s)) :
      Quieter keep library terminal (.command shared c) (.command shared' c)

/-- A command line whose report is quieter exits with the same code and does the same, but for the
messages that are not kept. -/
theorem ends_runLine_quieter [Platform] {args args' : List String}
    (others : ∀ a : Act, a.isMessage = false → keep a = true)
    (q : Line.Quieter keep library terminal (Line.read args) (Line.read args')) (s : Run) :
    ∃ code acts s₁, RunM.Ends (runLine library terminal args) s (.ok code) acts s₁ ∧
      RunM.Ends (runLine library terminal args') s (.ok code) (acts.filter keep)
        { s₁ with trace := s.trace ++ acts.filter keep } := by
  generalize line : Line.read args = l, line' : Line.read args' = l' at q
  cases q with
  | same none =>
    obtain ⟨code, a, other, adds⟩ := adds_runLine_of_none library terminal (line ▸ none)
    have only : [a].filter keep = [a] := by
      rw [List.filter_cons_of_pos (others a other), List.filter_nil]
    refine ⟨code, [a], _, (adds args rfl s).ends, ?_⟩
    rw [only]
    exact (adds args' (line'.trans line.symm) s).ends
  | command c h =>
    obtain ⟨result, result', acts, s₁, ends, thin, agree⟩ := Context.thins_run (h s) c s s.trace
    cases agree.eq
    have thinned := concludes_runLine line' ⟨thin, rfl⟩
    have concluded := filter_conclusion (h s).report result
    refine ⟨_, _, _, concludes_runLine line ends, ?_⟩
    rw [List.filter_append, concluded, ← List.append_assoc]
    exact thinned

open Classical in
theorem Context.quieter_quiet (shared : Shared) (s : Run) :
    Context.Quieter (!decide ·.Informs) (.of library terminal shared s)
      (.of library terminal { shared with quiet := true } s) :=
  ⟨rfl, rfl, rfl, rfl, RouteSchema.quieter_quiet (Context.of library terminal shared s).report⟩

open Classical in
theorem Context.quieter_verbose {shared : Shared} (plain : shared.verbose = false) (s : Run) :
    Context.Quieter (!decide ·.Debugs) (.of library terminal { shared with verbose := true } s)
      (.of library terminal shared s) :=
  ⟨rfl, rfl, rfl, rfl,
    RouteSchema.quieter_verbose (r := (Context.of library terminal shared s).report) plain⟩

open Classical in
theorem ends_runLine_quiet [Platform] (library : Library) (terminal : Bool) {args args' : List String}
    (line : Line.read args' =
      (Line.read args).withShared fun shared => { shared with quiet := true })
    (s : Run) :
    ∃ code acts s₁, RunM.Ends (runLine library terminal args) s (.ok code) acts s₁ ∧
      RunM.Ends (runLine library terminal args') s (.ok code) (acts.filter (!decide ·.Informs))
        { s₁ with trace := s.trace ++ acts.filter (!decide ·.Informs) } := by
  have others : ∀ a : Act, a.isMessage = false → (!decide a.Informs) = true :=
    fun _ => keeps_of_messages (P := Act.Informs) fun _ => Act.Informs.isMessage
  refine ends_runLine_quieter others ?_ s
  rw [line]
  cases Line.read args with
  | command shared c => exact .command c (Context.quieter_quiet shared)
  | version | help | nothing | misuse => exact .same (by rintro _ _ ⟨⟩)

open Classical in
theorem ends_runLine_verbose [Platform] {args args' : List String}
    (line : Line.read args' =
      (Line.read args).withShared fun shared => { shared with verbose := true })
    {s s₁ : Run} {code : Int} {acts : List Act}
    (h : RunM.Ends (runLine library terminal args) s (.ok code) acts s₁) :
    ∃ more, RunM.Ends (runLine library terminal args') s (.ok code) more
        { s₁ with trace := s.trace ++ more } ∧
      acts.Sublist more ∧ more.filter (!decide ·.Debugs) = acts.filter (!decide ·.Debugs) := by
  have others : ∀ a : Act, a.isMessage = false → (!decide a.Debugs) = true :=
    fun _ => keeps_of_messages (P := Act.Debugs) fun _ => Act.Debugs.isMessage
  have quieter : Line.read args' = Line.read args ∨ Line.Quieter (!decide ·.Debugs) library
      terminal (Line.read args') (Line.read args) := by
    rw [line]
    cases Line.read args with
    | command shared c =>
      cases plain : shared.verbose with
      | true => exact .inl (by rw [Line.withShared, ← plain])
      | false => exact .inr (.command c (Context.quieter_verbose plain))
    | version | help | nothing | misuse => exact .inl rfl
  rcases quieter with same | q
  · have run : runLine library terminal args' = runLine library terminal args := by
      rw [runLine, runLine, same]
    refine ⟨acts, ⟨?_, rfl⟩, .refl _, rfl⟩
    rw [run, h.ends, ← h.grows]
  · obtain ⟨code', more, s₂, verbose, ends⟩ := ends_runLine_quieter others q s
    obtain ⟨⟨⟩, rfl, rfl⟩ := ends.unique h
    refine ⟨more, ⟨?_, rfl⟩, List.filter_sublist, ?_⟩
    · rw [verbose.ends, ← verbose.grows]
    · rw [List.filter_filter]
      simp only [Bool.and_self]

end

/-- What is left out is messages, so all else is kept. -/
theorem filter_others {P : Act → Prop} [DecidablePred P] (messages : ∀ a, P a → a.isMessage = true)
    (acts : List Act) : (acts.filter fun a => !decide (P a)).filter (!·.isMessage) =
      acts.filter (!·.isMessage) := by
  rw [List.filter_filter]
  refine List.filter_congr fun a _ => ?_
  cases other : a.isMessage with
  | true => rfl
  | false => exact keeps_of_messages messages other

open Classical in
/-- **The flags for messages change nothing but messages.** Behind whole options and before the
command, `--quiet` leaves out exactly the informational messages, and `--verbose` only adds what is
meant for debugging. The exit code, the requests and pauses, the data on the standard output and all
else that is left behind are the same; no error or warning is of either kind. -/
theorem flags_only_mute [Platform] (library : Library) (terminal : Bool) {before after : List String}
    {given : List (String × String)} (s : Run)
    (leads : Options.Leads Line.sharedOptions before given) (asked : before ++ after ≠ []) :
    (∃ code acts quiet verbose s₁,
      RunM.Ends (runLine library terminal (before ++ after)) s (.ok code) acts s₁ ∧
      RunM.Ends (runLine library terminal (before ++ "--quiet" :: after)) s (.ok code) quiet
        { s₁ with trace := s.trace ++ quiet } ∧
      RunM.Ends (runLine library terminal (before ++ "--verbose" :: after)) s (.ok code) verbose
        { s₁ with trace := s.trace ++ verbose } ∧
      quiet = acts.filter (!decide ·.Informs) ∧ acts.Sublist verbose ∧
      verbose.filter (!decide ·.Debugs) = acts.filter (!decide ·.Debugs) ∧
      quiet.filter (!·.isMessage) = acts.filter (!·.isMessage) ∧
      verbose.filter (!·.isMessage) = acts.filter (!·.isMessage)) ∧
    ∀ (r : Report) text m, m ∈ r.error text ∨ m ∈ r.warning text →
      ¬Act.Informs (.showing m) ∧ ¬Act.Debugs (.showing m) := by
  refine ⟨?_, fun r text m => not_informs_error⟩
  obtain ⟨code, acts, s₁, ends, quiet⟩ :=
    ends_runLine_quiet library terminal (Line.read_flag flag_quiet leads asked) s
  obtain ⟨more, verbose, adds, same⟩ :=
    ends_runLine_verbose (Line.read_flag flag_verbose leads asked) ends
  have debugs := filter_others fun _ => Act.Debugs.isMessage
  refine ⟨code, acts, _, more, s₁, ends, quiet, verbose, rfl, adds, same,
    filter_others (fun _ => Act.Informs.isMessage) acts, ?_⟩
  rw [← debugs more, same, debugs]

/-- The text of a message, or what is written to a log. -/
def message? : Act → Option String
  | .showing (.err text) | .showing (.styledErr (.text text)) => some text
  | .log _ text => some text
  | _ => none

/-- What a look at the board under some flags exits with, and its messages. -/
def looked (flags : List String) (script : List Exchange) : Option Int × List String :=
  let _ : Platform := .usual
  let (result, s) := outcome (runLine boards false ("--json" :: (flags ++ ["call", "m:t", "view"])))
    (visit [("TOKEN", "abc")] script)
  (result.toOption, s.trace.filterMap message?)

theorem looked_of_ends (flags : List String) {script : List Exchange} {code : Int}
    {acts : List Act} {s' : Run}
    (h : RunM.Ends (@runLine .usual boards false ("--json" :: (flags ++ ["call", "m:t", "view"])))
      (visit [("TOKEN", "abc")] script) (.ok code) acts s') :
    looked flags script = (some code, acts.filterMap message?) := by
  rw [looked, h.ends]
  dsimp only
  rw [h.grows]
  rfl

/-- A look that is answered by 503 and by 404 exits with 4 under each flag: the error is told, and of
the new attempt `--verbose` alone tells. Answered by 200 it exits with 0, and `--quiet` leaves out
the status. -/
theorem flags_only_mute_viewing :
    let _ : Platform := .usual
    let s := visit [("TOKEN", "abc")] [.reply ⟨503, [], []⟩, .reply ⟨404, [], []⟩]
    let t := visit [("TOKEN", "abc")] [.reply ⟨200, [], []⟩]
    let look := runLine boards false ["--json", "call", "m:t", "view"]
    let quietLook := runLine boards false ["--json", "--quiet", "call", "m:t", "view"]
    let verboseLook := runLine boards false ["--json", "--verbose", "call", "m:t", "view"]
    Options.Leads Line.sharedOptions ["--json"] [("json", "")] ∧
    (∃ acts quiet verbose s₁, RunM.Ends look s (.ok 4) acts s₁ ∧
      RunM.Ends quietLook s (.ok 4) quiet { s₁ with trace := s.trace ++ quiet } ∧
      RunM.Ends verboseLook s (.ok 4) verbose { s₁ with trace := s.trace ++ verbose } ∧
      quiet.filter (!·.isMessage) = verbose.filter (!·.isMessage) ∧
      acts.filterMap message? = ["[bold red]Error:[/bold red] view: HTTP 404"] ∧
      quiet.filterMap message? = ["[bold red]Error:[/bold red] view: HTTP 404"] ∧
      "Server error 503, retrying in 1s (attempt 1/3)" ∈ verbose.filterMap message?) ∧
    ∃ acts quiet t₁, RunM.Ends look t (.ok 0) acts t₁ ∧
      RunM.Ends quietLook t (.ok 0) quiet { t₁ with trace := t.trace ++ quiet } ∧
      acts.filterMap message? = ["HTTP 200 OK"] ∧ quiet.filterMap message? = [] := by
  intro _ s t look quietLook verboseLook
  have reads : Options.read Line.sharedOptions "--json" = some ([("json", "")], none) := by
    decide +kernel
  have leads : Options.Leads Line.sharedOptions ["--json"] [("json", "")] :=
    .whole (by decide) (by decide +kernel) reads .nil
  have asked : ["--json"] ++ ["call", "m:t", "view"] ≠ [] := by decide
  refine ⟨leads, ?_, ?_⟩
  · have plain : looked [] [.reply ⟨503, [], []⟩, .reply ⟨404, [], []⟩] =
        (some 4, ["[bold red]Error:[/bold red] view: HTTP 404"]) := by decide +kernel
    have muted : looked ["--quiet"] [.reply ⟨503, [], []⟩, .reply ⟨404, [], []⟩] =
        (some 4, ["[bold red]Error:[/bold red] view: HTTP 404"]) := by decide +kernel
    have noted : "Server error 503, retrying in 1s (attempt 1/3)" ∈
        (looked ["--verbose"] [.reply ⟨503, [], []⟩, .reply ⟨404, [], []⟩]).2 := by decide +kernel
    obtain ⟨code, acts, quiet, verbose, s₁, base, quietly, verbosely, -, -, -, same, same'⟩ :=
      (flags_only_mute boards false s leads asked).1
    obtain ⟨⟨⟩, told⟩ := Prod.mk.inj ((looked_of_ends [] base).symm.trans plain)
    have told' := Prod.mk.inj ((looked_of_ends ["--quiet"] quietly).symm.trans muted)
    rw [looked_of_ends ["--verbose"] verbosely] at noted
    exact ⟨acts, quiet, verbose, s₁, base, quietly, verbosely, same.trans same'.symm, told, told'.2,
      noted⟩
  · have plain : looked [] [.reply ⟨200, [], []⟩] = (some 0, ["HTTP 200 OK"]) := by decide +kernel
    have muted : looked ["--quiet"] [.reply ⟨200, [], []⟩] = (some 0, []) := by decide +kernel
    obtain ⟨code, acts, quiet, _, t₁, base, quietly, -⟩ :=
      (flags_only_mute boards false t leads asked).1
    obtain ⟨⟨⟩, told⟩ := Prod.mk.inj ((looked_of_ends [] base).symm.trans plain)
    have told' := Prod.mk.inj ((looked_of_ends ["--quiet"] quietly).symm.trans muted)
    exact ⟨acts, quiet, t₁, base, quietly, told, told'.2⟩

end Cli

end RouteSchema
