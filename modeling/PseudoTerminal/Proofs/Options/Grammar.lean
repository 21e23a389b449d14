import Mathlib.Tactic
import Mathlib.Data.Nat.Digits.Defs
import PseudoTerminal.Console
import PseudoTerminal.Proofs.Environment.BlockRoundTrip

/-! The grammar of the command line. An element is an option with the argument behind it, whatever that
looks like; the arguments are a sequence of elements, which `--` and a command may end. What the values mean is
stated without the way in which they are read: a number of seconds by its digits, a variable by the first
equals sign. Either all arguments belong to the grammar, and then the options are what the elements mean, or
there is a leftmost one that does not or that asks for help, and that one decides. -/

namespace PseudoTerminal.Options

/-! ### Values -/

/-- The number that decimal digits write. -/
def decimal (digits : List Char) : ℕ := Nat.ofDigits 10 (digits.reverse.map fun c => c.toNat - 48)

/-- Whether a value gives so many seconds: digits, with an optional plus sign, of a number below
`2 ^ 64`. -/
def IsSeconds (value : String) (n : ℕ) : Prop :=
  ∃ digits, (value.toList = digits ∨ value.toList = '+' :: digits) ∧ digits ≠ [] ∧
    (∀ c ∈ digits, c.isDigit) ∧ decimal digits = n ∧ n < 2 ^ 64

/-- Whether a value sets a variable: the key is not empty and ends at the first equals sign. -/
def IsAssignment (value : String) (entry : String × String) : Prop :=
  value = entry.1 ++ "=" ++ entry.2 ∧ entry.1 ≠ "" ∧ '=' ∉ entry.1.toList

variable {o o' : Options} {s : Setting} {arg value : String} {args rest : List String} {n : ℕ}
  {entry : String × String} {c : Char} {cs digits : List Char}

theorem digit?_eq_some_iff : digit? c = some n ↔ c.isDigit ∧ c.toNat - 48 = n := by
  have same : ('0' ≤ c ∧ c ≤ '9') ↔ c.isDigit := by
    simp [Char.isDigit, Char.le_def]
  rw [digit?]
  split_ifs with digit
  · simp [same.mp digit]
  · simp [mt same.mpr digit]

@[simp] theorem decimal_nil : decimal [] = 0 := rfl

theorem decimal_concat (digits : List Char) (c : Char) :
    decimal (digits ++ [c]) = decimal digits * 10 + (c.toNat - 48) := by
  rw [decimal, List.reverse_concat, List.map_cons, Nat.ofDigits_cons, decimal]
  ring

/-- The fold over the digits computes the number that they write. -/
theorem foldlM_digit? : digits.foldlM (fun n c => (digit? c).map (n * 10 + ·)) 0 = some n ↔
    (∀ c ∈ digits, c.isDigit) ∧ decimal digits = n := by
  induction digits using List.reverseRecOn generalizing n with
  | nil => simp
  | append_singleton digits c ih =>
    simp only [List.foldlM_append, List.foldlM_cons, List.foldlM_nil, bind_pure,
      Option.bind_eq_bind, Option.bind_eq_some_iff, Option.map_eq_some_iff, digit?_eq_some_iff, ih,
      decimal_concat, List.forall_mem_append, List.forall_mem_singleton]
    constructor
    · rintro ⟨_, ⟨all, rfl⟩, _, ⟨digit, rfl⟩, rfl⟩
      exact ⟨⟨all, digit⟩, rfl⟩
    · rintro ⟨⟨all, digit⟩, rfl⟩
      exact ⟨_, ⟨all, rfl⟩, _, ⟨digit, rfl⟩, rfl⟩

theorem digits?_eq_some_iff : digits? digits = some n ↔
    digits ≠ [] ∧ (∀ c ∈ digits, c.isDigit) ∧ decimal digits = n ∧ n < 2 ^ 64 := by
  rw [digits?]
  split_ifs with empty
  · simp [List.isEmpty_iff.mp empty]
  · rw [Option.filter_eq_some_iff, foldlM_digit?, decide_eq_true_iff, and_assoc]
    exact (and_iff_right (mt List.isEmpty_iff.mpr empty)).symm

theorem seconds?_eq_some_iff : seconds? value = some n ↔ IsSeconds value n := by
  unfold seconds? IsSeconds
  split
  case h_1 cs shape =>
    rw [digits?_eq_some_iff, shape]
    constructor
    · exact fun reads => ⟨cs, .inr rfl, reads⟩
    · rintro ⟨digits, rfl | same, nonempty, all, reads⟩
      · exact absurd (all '+' List.mem_cons_self) (by decide)
      · cases same
        exact ⟨nonempty, all, reads⟩
  case h_2 other =>
    rw [digits?_eq_some_iff]
    constructor
    · exact fun reads => ⟨_, .inl rfl, reads⟩
    · rintro ⟨digits, rfl | plus, reads⟩
      · exact reads
      · exact (other digits plus).elim

theorem assignment?_eq_some_iff : assignment? value = some entry ↔ IsAssignment value entry := by
  obtain ⟨key, x⟩ := entry
  have whole : value.toList = key.toList ++ '=' :: x.toList ↔ value = key ++ "=" ++ x := by
    rw [← String.toList_inj]
    simp
  have parts : IsAssignment value (key, x) ↔
      Environment.splitAtEquals value.toList = some (key.toList, x.toList) ∧ key ≠ "" := by
    rw [Environment.splitAtEquals_eq_some_iff, whole]
    exact ⟨fun ⟨shape, nonempty, plain⟩ => ⟨⟨shape, plain⟩, nonempty⟩,
      fun ⟨⟨shape, plain⟩, nonempty⟩ => ⟨shape, nonempty, plain⟩⟩
  rw [assignment?, parts]
  cases Environment.splitAtEquals value.toList with
  | none => simp
  | some pair =>
    obtain ⟨k, v⟩ := pair
    have same : (String.ofList k, String.ofList v) = (key, x) ↔ (k, v) = (key.toList, x.toList) := by
      simp [← String.toList_inj]
    have empty : key = "" ↔ key.toList = [] := by simp
    simp only [List.isEmpty_iff, Option.some.injEq, ne_eq, empty]
    split_ifs with nothing
    · refine iff_of_false nofun fun ⟨found, nonempty⟩ => nonempty ?_
      cases found
      exact nothing
    · rw [Option.some.injEq, same]
      refine ⟨fun found => ⟨found, ?_⟩, And.left⟩
      cases found
      exact nothing

/-! ### Elements -/

/-- How an option that takes a value may be written. -/
def Setting.spellings : Setting → List String
  | .shell => ["-s", "--shell"]
  | .dir => ["-d", "--dir"]
  | .timeout => ["-t", "--timeout"]
  | .entry => ["-e", "--env"]

def helpSpellings : List String := ["-h", "--help"]

def versionSpellings : List String := ["-v", "--version"]

/-- Whether an argument in option position is one that the grammar does not know. -/
def IsUnknown (arg : String) : Prop :=
  (∀ s : Setting, arg ∉ s.spellings) ∧ arg ∉ helpSpellings ∧ arg ∉ versionSpellings ∧ arg ≠ "--"

/-- Whether an option takes a value. -/
def Setting.Takes : Setting → String → Prop
  | .shell, _ | .dir, _ => True
  | .timeout, value => ∃ n, IsSeconds value n
  | .entry, value => ∃ e, IsAssignment value e

/-- An option with the argument behind it. -/
structure Element where
  setting : Setting
  option : String
  value : String

/-- Whether an element belongs to the grammar. -/
def Element.IsProper (e : Element) : Prop := e.option ∈ e.setting.spellings ∧ e.setting.Takes e.value

/-- The arguments that write some elements. -/
def written (elements : List Element) : List String := elements.flatMap fun e => [e.option, e.value]

/-- The values that an option was given, in order. -/
def given (elements : List Element) (s : Setting) : List String :=
  (elements.filter (·.setting = s)).map Element.value

/-- Whether options are what some elements and a command mean: the last shell, directory and timeout, and
all variables in order. -/
structure Means (elements : List Element) (command : List String) (o : Options) : Prop where
  shell : o.shell = (given elements .shell).getLast?
  dir : o.dir = (given elements .dir).getLast?
  timeout : Option.Rel IsSeconds (given elements .timeout).getLast? o.timeout
  vars : List.Forall₂ IsAssignment (given elements .entry) o.vars
  command : o.command = command

/-- How arguments begin that are neither an element nor `--` with a command, and what the first of them
asks for. -/
inductive Stops : List String → Request → Prop
  | help (arg : String) (rest : List String) (spelled : arg ∈ helpSpellings) : Stops (arg :: rest) .help
  | version (arg : String) (rest : List String) (spelled : arg ∈ versionSpellings) :
      Stops (arg :: rest) .version
  | noValue (s : Setting) (arg : String) (spelled : arg ∈ s.spellings) :
      Stops [arg] (.refuse (.missingValue s))
  | badTimeout (arg value : String) (rest : List String) (spelled : arg ∈ Setting.timeout.spellings)
      (bad : ¬ Setting.timeout.Takes value) :
      Stops (arg :: value :: rest) (.refuse (.invalidTimeout value))
  | badVariable (arg value : String) (rest : List String) (spelled : arg ∈ Setting.entry.spellings)
      (bad : ¬ Setting.entry.Takes value) :
      Stops (arg :: value :: rest) (.refuse (.invalidVariable value))
  | noProgram : Stops ["--"] (.refuse .missingProgram)
  | unknown (arg : String) (rest : List String) (unknown : IsUnknown arg) :
      Stops (arg :: rest) (.refuse (.unknown arg))

theorem role?_eq_setting_iff : Role.of? arg = some (.setting s) ↔ arg ∈ s.spellings := by
  unfold Role.of?
  split <;> cases s <;> simp_all [Setting.spellings]

theorem role?_eq_help_iff : Role.of? arg = some .help ↔ arg ∈ helpSpellings := by
  unfold Role.of?
  split <;> simp_all [helpSpellings]

theorem role?_eq_version_iff : Role.of? arg = some .version ↔ arg ∈ versionSpellings := by
  unfold Role.of?
  split <;> simp_all [versionSpellings]

theorem role?_eq_command_iff : Role.of? arg = some .command ↔ arg = "--" := by
  unfold Role.of?
  split <;> simp_all

theorem role?_eq_none_iff : Role.of? arg = none ↔ IsUnknown arg := by
  unfold IsUnknown
  rw [← role?_eq_help_iff, ← role?_eq_version_iff, Ne, ← role?_eq_command_iff]
  simp only [← role?_eq_setting_iff]
  rcases Role.of? arg with _ | _ | _ | s | _ <;> simp

/-! ### Reading elements -/

@[simp] theorem written_nil : written [] = [] := rfl

@[simp] theorem written_cons (e : Element) (elements : List Element) :
    written (e :: elements) = e.option :: e.value :: written elements := rfl

/-- One element more gives its option one value more. -/
theorem given_concat (elements : List Element) (e : Element) : given (elements ++ [e]) =
    Function.update (given elements) e.setting (given elements e.setting ++ [e.value]) := by
  funext s
  rw [given, List.filter_append, List.map_append, Function.update_apply]
  split_ifs with same
  · subst same
    simp [given]
  · simp [given, Ne.symm same]

/-- An option takes just the values that can be set. -/
theorem exists_set_iff : (∃ o', o.set s value = .ok o') ↔ s.Takes value := by
  cases s with
  | shell | dir => exact iff_of_true ⟨_, rfl⟩ trivial
  | timeout =>
    simp only [Setting.Takes, ← seconds?_eq_some_iff, set]
    cases seconds? value <;> simp
  | entry =>
    simp only [Setting.Takes, ← assignment?_eq_some_iff, set]
    cases assignment? value <;> simp

/-- A value that cannot be set stops the reading. -/
theorem stops_of_set {reason : Refusal} (spelled : arg ∈ s.spellings)
    (refused : o.set s value = .error reason) : Stops (arg :: value :: rest) (.refuse reason) := by
  have bad : ¬ s.Takes value := by
    rw [← exists_set_iff (o := o), refused]
    simp
  cases s with
  | shell | dir => exact absurd trivial bad
  | timeout =>
    rw [set] at refused
    split at refused <;> cases refused
    exact .badTimeout arg value rest spelled bad
  | entry =>
    rw [set] at refused
    split at refused <;> cases refused
    exact .badVariable arg value rest spelled bad

/-- What elements mean, one element more changes as setting its option does. -/
theorem Means.concat {elements : List Element} {e : Element} (means : Means elements [] o)
    (set : o.set e.setting e.value = .ok o') : Means (elements ++ [e]) [] o' := by
  obtain ⟨setting, option, value⟩ := e
  obtain ⟨shell, dir, timeout, vars, command⟩ := means
  cases setting with
  | shell =>
    cases set
    constructor <;> simp [given_concat, dir, timeout, vars, command]
  | dir =>
    cases set
    constructor <;> simp [given_concat, shell, timeout, vars, command]
  | timeout =>
    rw [Options.set] at set
    split at set <;> cases set
    case h_1 n found =>
    have reads : IsSeconds value n := seconds?_eq_some_iff.mp found
    constructor <;> simp [given_concat, shell, dir, reads, vars, command, Option.rel_some_some]
  | entry =>
    rw [Options.set] at set
    split at set <;> cases set
    case h_1 entry found =>
    have reads : IsAssignment value entry := assignment?_eq_some_iff.mp found
    have more := List.rel_append vars (.cons reads .nil)
    constructor <;> simp [given_concat, shell, dir, timeout, more, command]

theorem means_nil : Means [] [] {} := ⟨rfl, rfl, .none, .nil, rfl⟩

theorem Means.withCommand {elements : List Element} (means : Means elements [] o) (command : List String) :
    Means elements command { o with command } :=
  ⟨means.shell, means.dir, means.timeout, means.vars, rfl⟩

theorem rightUnique_isSeconds : Relator.RightUnique IsSeconds := fun _ _ _ reads reads' =>
  Option.some.inj <| (seconds?_eq_some_iff.mpr reads).symm.trans (seconds?_eq_some_iff.mpr reads')

theorem rightUnique_isAssignment : Relator.RightUnique IsAssignment := fun _ _ _ reads reads' =>
  Option.some.inj <| (assignment?_eq_some_iff.mpr reads).symm.trans (assignment?_eq_some_iff.mpr reads')

theorem rightUnique_rel_isSeconds : Relator.RightUnique (Option.Rel IsSeconds) := by
  intro _ _ _ last last'
  cases last with
  | none => cases last'; rfl
  | some reads => cases last' with
    | some reads' => rw [rightUnique_isSeconds reads reads']

/-- Elements and a command mean one thing only. -/
theorem Means.unique {elements : List Element} {command : List String} (means : Means elements command o)
    (means' : Means elements command o') : o = o' := by
  have timeout : o.timeout = o'.timeout := rightUnique_rel_isSeconds means.timeout means'.timeout
  have vars : o.vars = o'.vars := rightUnique_isAssignment.forall₂ means.vars means'.vars
  have shell : o.shell = o'.shell := means.shell.trans means'.shell.symm
  have dir : o.dir = o'.dir := means.dir.trans means'.dir.symm
  have last : o.command = o'.command := means.command.trans means'.command.symm
  cases o
  cases o'
  simp_all

/-! ### Reading all arguments -/

/-- How a list of arguments is read: all of it, with or without a command, or up to the leftmost argument
that stops the reading, whatever follows that one. -/
inductive Reads : List String → Request → Prop
  | elements (elements : List Element) (o : Options) (proper : ∀ e ∈ elements, e.IsProper)
      (means : Means elements [] o) : Reads (written elements) (.run o)
  | command (elements : List Element) (command : List String) (o : Options)
      (proper : ∀ e ∈ elements, e.IsProper) (some : command ≠ []) (means : Means elements command o) :
      Reads (written elements ++ "--" :: command) (.run o)
  | stop (elements : List Element) (rest : List String) (q : Request)
      (proper : ∀ e ∈ elements, e.IsProper) (stops : Stops rest q) : Reads (written elements ++ rest) q

/-- Elements are read one after the other. -/
theorem parseFrom_written {before elements : List Element} (means : Means before [] o)
    (proper : ∀ e ∈ elements, e.IsProper) (rest : List String) :
    ∃ o', Means (before ++ elements) [] o' ∧
      parseFrom o (written elements ++ rest) = parseFrom o' rest := by
  induction elements generalizing before o with
  | nil => exact ⟨o, by simpa using means, rfl⟩
  | cons e elements ih =>
    obtain ⟨⟨spelled, takes⟩, proper⟩ := List.forall_mem_cons.mp proper
    obtain ⟨next, set⟩ := exists_set_iff (o := o).mpr takes
    obtain ⟨o', more, reads⟩ := ih (means.concat set) proper
    refine ⟨o', by simpa using more, ?_⟩
    rw [written_cons, List.cons_append, List.cons_append, parseFrom, role?_eq_setting_iff.mpr spelled]
    simpa only [set] using reads

theorem parseFrom_of_stops {q : Request} (stops : Stops args q) : parseFrom o args = q := by
  cases stops with
  | help arg rest spelled => rw [parseFrom, role?_eq_help_iff.mpr spelled]
  | version arg rest spelled => rw [parseFrom, role?_eq_version_iff.mpr spelled]
  | noValue s arg spelled => rw [parseFrom, role?_eq_setting_iff.mpr spelled]
  | badTimeout arg value rest spelled bad =>
    have none : seconds? value = none := Option.eq_none_iff_forall_ne_some.mpr fun n found =>
      bad ⟨n, seconds?_eq_some_iff.mp found⟩
    simp only [parseFrom, role?_eq_setting_iff.mpr spelled, set, none]
  | badVariable arg value rest spelled bad =>
    have none : assignment? value = none := Option.eq_none_iff_forall_ne_some.mpr fun e found =>
      bad ⟨e, assignment?_eq_some_iff.mp found⟩
    simp only [parseFrom, role?_eq_setting_iff.mpr spelled, set, none]
  | noProgram => rfl
  | unknown arg rest unknown => rw [parseFrom, role?_eq_none_iff.mpr unknown]

theorem parseFrom_command {command : List String} (some : command ≠ []) :
    parseFrom o ("--" :: command) = .run { o with command } := by
  have empty : command.isEmpty = false := by simpa using some
  rw [parseFrom, role?_eq_command_iff.mpr rfl]
  simp only [empty, Bool.false_eq_true, if_false]

/-- Every list of arguments begins with elements, after which there is nothing, a command, or an argument
that stops the reading. -/
theorem exists_elements : ∀ args : List String, ∃ elements rest, (∀ e ∈ elements, e.IsProper) ∧
    args = written elements ++ rest ∧
      (rest = [] ∨ (∃ command, command ≠ [] ∧ rest = "--" :: command) ∨ ∃ q, Stops rest q)
  | [] => ⟨[], [], nofun, rfl, .inl rfl⟩
  | arg :: args => by
    have stopped {args : List String} {q : Request} (stops : Stops args q) : ∃ elements rest,
        (∀ e ∈ elements, e.IsProper) ∧ args = written elements ++ rest ∧
          (rest = [] ∨ (∃ command, command ≠ [] ∧ rest = "--" :: command) ∨ ∃ q, Stops rest q) :=
      ⟨[], args, nofun, rfl, .inr (.inr ⟨q, stops⟩)⟩
    cases role : Role.of? arg with
    | none => exact stopped (.unknown arg args (role?_eq_none_iff.mp role))
    | some r =>
      cases r with
      | help => exact stopped (.help arg args (role?_eq_help_iff.mp role))
      | version => exact stopped (.version arg args (role?_eq_version_iff.mp role))
      | command =>
        cases role?_eq_command_iff.mp role
        cases args with
        | nil => exact stopped .noProgram
        | cons program args =>
          exact ⟨[], _, nofun, rfl, .inr (.inl ⟨program :: args, List.cons_ne_nil _ _, rfl⟩)⟩
      | setting s =>
        have spelled := role?_eq_setting_iff.mp role
        match args with
        | [] => exact stopped (.noValue s arg spelled)
        | value :: args =>
          cases set : ({} : Options).set s value with
          | error reason => exact stopped (stops_of_set spelled set)
          | ok o =>
            obtain ⟨elements, rest, proper, rfl, ends⟩ := exists_elements args
            refine ⟨⟨s, arg, value⟩ :: elements, rest, ?_, rfl, ends⟩
            exact List.forall_mem_cons.mpr ⟨⟨spelled, exists_set_iff.mp ⟨o, set⟩⟩, proper⟩

/-- What the arguments are read as is what they ask for. -/
theorem reads_parse (args : List String) : Reads args (parse args) := by
  obtain ⟨elements, rest, proper, rfl, ends⟩ := exists_elements args
  obtain ⟨o, means, reads⟩ := parseFrom_written means_nil proper rest
  rw [List.nil_append] at means
  rw [parse, reads]
  rcases ends with rfl | ⟨command, some, rfl⟩ | ⟨q, stops⟩
  · rw [List.append_nil]
    exact .elements elements o proper means
  · rw [parseFrom_command some]
    exact .command elements command _ proper some (means.withCommand command)
  · rw [parseFrom_of_stops stops]
    exact .stop elements rest q proper stops

/-- What the arguments are read as is nothing else. -/
theorem parse_of_reads {q : Request} (reads : Reads args q) : parse args = q := by
  cases reads with
  | elements elements o proper means =>
    obtain ⟨o', means', reads⟩ := parseFrom_written means_nil proper []
    rw [List.nil_append] at means'
    rw [List.append_nil] at reads
    rw [parse, reads, means'.unique means]
    rfl
  | command elements command o proper some means =>
    obtain ⟨o', means', reads⟩ := parseFrom_written means_nil proper ("--" :: command)
    rw [List.nil_append] at means'
    rw [parse, reads, parseFrom_command some, (means'.withCommand command).unique means]
  | stop elements rest q proper stops =>
    obtain ⟨o', -, reads⟩ := parseFrom_written means_nil proper rest
    rw [parse, reads, parseFrom_of_stops stops]

/-- The options are read exactly by the grammar: what the arguments ask for is what they are read as, and
that is one thing. With help or the version the program ends with status 0, and with arguments that are
refused it shows why and ends with status 1. -/
theorem arguments_follow_grammar (args : List String) :
    (∀ q, parse args = q ↔ Reads args q) ∧ ∀ (i : Invocation) (play : Option Play),
      (Reads args .help ∨ Reads args .version → (Console.run { i with args } play).status = 0) ∧
      ∀ reason, Reads args (.refuse reason) → (Console.run { i with args } play).status = 1 ∧
        (Console.run { i with args } play).pieces = [.said (refusalText reason)] := by
  refine ⟨fun q => ⟨?_, parse_of_reads⟩, fun i play => ⟨?_, fun reason reads => ?_⟩⟩
  · rintro rfl
    exact reads_parse args
  · rintro (reads | reads)
    · simp only [Console.run, parse_of_reads reads]
    · simp only [Console.run, parse_of_reads reads]
  · constructor
    · simp only [Console.run, parse_of_reads reads]
    · simp only [Console.run, parse_of_reads reads]

/-- An option takes `--` for its value, another one takes a plus sign with leading zeros, and a key that is empty
decides before any help that follows. -/
theorem arguments_follow_grammar_collision :
    Reads ["-s", "--", "-t", "+007", "-e", "A=B=C", "--", "-h"]
      (.run { shell := some "--", timeout := some 7, vars := [("A", "B=C")], command := ["-h"] }) ∧
    Reads ["-d", "-h", "-e", "=C", "-h"] (.refuse (.invalidVariable "=C")) ∧
    (Console.run { (default : Invocation) with args := ["-d", "-h", "-e", "=C", "-h"] }).status = 1 := by
  have refused : Reads ["-d", "-h", "-e", "=C", "-h"] (.refuse (.invalidVariable "=C")) :=
    ((arguments_follow_grammar _).1 _).mp (by decide)
  exact ⟨((arguments_follow_grammar _).1 _).mp (by decide), refused,
    (((arguments_follow_grammar _).2 default none).2 _ refused).1⟩

end PseudoTerminal.Options
