import OverflowScan.Proofs.CommandLine.Words

set_option autoImplicit false

namespace OverflowScan.CommandLine

def formatWord : Format → String
  | .json => "json"
  | .yaml => "yaml"

inductive OutputName where
  | out
  | output
  deriving DecidableEq, Repr

def OutputName.word : OutputName → String
  | .out => "--out"
  | .output => "--output"

/-- An option as it is written. A value of its own word does not start with a dash, and a value
joined to the option is not a double dash. -/
inductive Group where
  | letters (more : Nat)
  | verbose
  | format (asked : Format)
  | formatJoined (asked : Format)
  | output (name : OutputName) (path : String) (dashless : Dashless path)
  | outputJoined (name : OutputName) (path : String) (value : path ≠ "--")

namespace Group

def words : Group → List String
  | .letters more => [String.ofList ('-' :: List.replicate (more + 1) 'v')]
  | .verbose => ["--verbose"]
  | .format asked => ["--format", formatWord asked]
  | .formatJoined asked => ["--format" ++ "=" ++ formatWord asked]
  | .output name path _ => [name.word, path]
  | .outputJoined name path _ => [name.word ++ "=" ++ path]

/-- How often a group asks for more to be logged. -/
def verbosity : Group → Nat
  | .letters more => more + 1
  | .verbose => 1
  | _ => 0

def format? : Group → Option Format
  | .format asked | .formatJoined asked => some asked
  | _ => none

def output? : Group → Option String
  | .output _ path _ | .outputJoined _ path _ => some path
  | _ => none

end Group

theorem classify_output (name : OutputName) : classify name.word = .long .output none := by
  cases name <;> decide

theorem classify_outputJoined (name : OutputName) (path : String) :
    classify (name.word ++ "=" ++ path) = .long .output (some path.toList) := by
  cases name <;> exact classify_joined (by decide) (by decide) (by decide) path

theorem classify_formatJoined (format : Format) :
    classify ("--format" ++ "=" ++ formatWord format) =
      .long .format (some (formatWord format).toList) :=
  classify_joined (by decide) (by decide) (by decide) _

theorem dashless_formatWord (asked : Format) : Dashless (formatWord asked) := by
  cases asked <;> decide

theorem Group.clear (group : Group) : ∀ word ∈ group.words, Clear word := by
  cases group with
  | letters more =>
    rw [words, List.forall_mem_singleton]
    cases more with
    | zero => exact clear_of_classify (show classify _ = .short .verbose none by decide) (by simp)
    | succ more => exact clear_of_classify (classify_letters more) (by simp)
  | verbose =>
    rw [words, List.forall_mem_singleton]
    exact clear_of_classify (show classify _ = .long .verbose none by decide) (by simp)
  | format asked =>
    rw [words, List.forall_mem_cons, List.forall_mem_singleton]
    exact ⟨clear_of_classify (show classify _ = .long .format none by decide) (by simp),
      (dashless_formatWord asked).clear⟩
  | formatJoined asked =>
    rw [words, List.forall_mem_singleton]
    exact clear_of_classify (classify_formatJoined asked) (by simp)
  | output name path dashless =>
    rw [words, List.forall_mem_cons, List.forall_mem_singleton]
    exact ⟨clear_of_classify (classify_output name) (by simp), dashless.clear⟩
  | outputJoined name path value =>
    rw [words, List.forall_mem_singleton]
    exact clear_of_classify (classify_outputJoined name path) (by simp)

namespace Settings

def takeGroup (settings : Settings) (group : Group) : Settings :=
  { settings with
    format := group.format?.getD settings.format
    output := group.output?.or settings.output
    verbosity := settings.verbosity + group.verbosity }

theorem takeFlags_verbose (settings : Settings) (count : Nat) :
    settings.takeFlags (List.replicate count .verbose) =
      .ok { settings with verbosity := settings.verbosity + count } := by
  induction count generalizing settings with
  | zero => rfl
  | succ count ih =>
    rw [List.replicate_succ, takeFlags]
    simp only [takeFlag]
    rw [ih, Nat.add_assoc, Nat.add_comm 1 count]

end Settings

theorem shortFlags_letters (count : Nat) :
    shortFlags .verbose (List.replicate count 'v') = .ok (List.replicate (count + 1) .verbose) := by
  have letter : spelling? ['-', 'v'] = some ⟨"-v", .verbose⟩ := by decide
  induction count with
  | zero => rfl
  | succ count ih =>
    rw [List.replicate_succ, shortFlags, letter]
    simp only [ih]
    rfl

theorem takeShort_letters (settings : Settings) (count : Nat) :
    takeShort settings .verbose (List.replicate count 'v') =
      .ok { settings with verbosity := settings.verbosity + (count + 1) } := by
  rw [takeShort, shortFlags_letters]
  exact settings.takeFlags_verbose (count + 1)

theorem takeValue_formatWord (settings : Settings) (asked : Format) :
    settings.takeValue .format (formatWord asked) = .ok { settings with format := asked } := by
  cases asked <;> simp [Settings.takeValue, formatWord]

theorem takeValue_output (settings : Settings) {path : String} (value : path ≠ "--") :
    settings.takeValue .output path = .ok { settings with output := some path } := by
  simp [Settings.takeValue, value]

/-- Reading a group sets what the group asks for and goes on behind it. -/
theorem read_group (settings : Settings) (adjacent : Bool) (group : Group) (rest : List String) :
    read settings adjacent (group.words ++ rest) = read (settings.takeGroup group) false rest := by
  have clear := group.clear
  cases group with
  | letters more =>
    have other := (clear _ List.mem_cons_self).ne_double
    -- one letter is an exact spelling, and more of them are a short option with text attached
    cases more with
    | zero =>
      have known : classify (String.ofList ('-' :: List.replicate (0 + 1) 'v')) =
          .short .verbose none := by decide
      have taken := takeShort_letters settings 0
      rw [List.replicate_zero] at taken
      simp only [Group.words, List.singleton_append, read, if_neg other, known, taken]
      rfl
    | succ more =>
      have taken := takeShort_letters settings (more + 1)
      rw [List.replicate_succ] at taken
      simp only [Group.words, List.singleton_append, read, if_neg other, classify_letters, taken]
      rfl
  | verbose =>
    have known : classify "--verbose" = .long .verbose none := by decide
    have other := (clear _ List.mem_cons_self).ne_double
    simp only [Group.words, List.singleton_append, read, if_neg other, known]
    rfl
  | format asked =>
    have known : classify "--format" = .long .format none := by decide
    have other := (clear _ List.mem_cons_self).ne_double
    simp only [Group.words, List.cons_append, List.nil_append, read, if_neg other, known,
      isValue_dashless (dashless_formatWord asked), takeValue_formatWord, if_true, Flag.takesValue]
    rfl
  | formatJoined asked =>
    have other := (clear _ List.mem_cons_self).ne_double
    simp only [Group.words, List.singleton_append, read, if_neg other, classify_formatJoined,
      String.ofList_toList, takeValue_formatWord]
    rfl
  | output name path dashless =>
    have other := (clear _ List.mem_cons_self).ne_double
    have value := dashless.clear.ne_double
    simp only [Group.words, List.cons_append, List.nil_append, read, if_neg other,
      classify_output name, isValue_dashless dashless, takeValue_output settings value, if_true,
      Flag.takesValue]
    rfl
  | outputJoined name path value =>
    have other := (clear _ List.mem_cons_self).ne_double
    simp only [Group.words, List.singleton_append, read, if_neg other, classify_outputJoined,
      String.ofList_toList, takeValue_output settings value]
    rfl

end OverflowScan.CommandLine
