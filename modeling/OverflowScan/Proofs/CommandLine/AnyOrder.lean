import OverflowScan.CommandLine.Run
import OverflowScan.Proofs.CommandLine.Groups

set_option autoImplicit false

namespace OverflowScan.CommandLine

inductive Item where
  | option (group : Group)
  | plain (word : String) (dashless : Dashless word)

namespace Item

def words : Item → List String
  | .option group => group.words
  | .plain word _ => [word]

def group? : Item → Option Group
  | .option group => some group
  | .plain _ _ => none

def plain? : Item → Option String
  | .option _ => none
  | .plain word _ => some word

theorem clear (item : Item) : ∀ word ∈ item.words, Clear word := by
  cases item with
  | option group => exact group.clear
  | plain word dashless =>
    rw [words, List.forall_mem_singleton]
    exact dashless.clear

end Item

/-- What groups ask for, with a source. Of several formats, and of several report files, the last
one counts. -/
def optionsFor (groups : List Group) (source : String) : Options where
  source := source
  format := (groups.filterMap Group.format?).getLast?.getD .json
  output := (groups.filterMap Group.output?).getLast?
  verbosity := (groups.map Group.verbosity).foldr (· + ·) 0

theorem getLast?_filterMap_cons {α β : Type} (write : α → Option β) (item : α) (rest : List α) :
    ((item :: rest).filterMap write).getLast? =
      (rest.filterMap write).getLast?.or (write item) := by
  cases asked : write item with
  | none => rw [List.filterMap_cons_none asked, Option.or_none]
  | some value =>
    rw [List.filterMap_cons_some asked, List.getLast?_cons]
    cases (rest.filterMap write).getLast? <;> rfl

namespace Settings

def takeItem (settings : Settings) : Item → Settings
  | .option group => settings.takeGroup group
  | .plain word _ => settings.takePlain word

theorem foldl_takeGroup (settings : Settings) (groups : List Group) :
    groups.foldl takeGroup settings =
      { settings with
        format := (groups.filterMap Group.format?).getLast?.getD settings.format
        output := (groups.filterMap Group.output?).getLast?.or settings.output
        verbosity := settings.verbosity + (groups.map Group.verbosity).foldr (· + ·) 0 } := by
  induction groups generalizing settings with
  | nil => rfl
  | cons group rest ih =>
    rw [List.foldl_cons, ih, getLast?_filterMap_cons, getLast?_filterMap_cons, List.map_cons,
      List.foldr_cons, ← Nat.add_assoc, Option.or_assoc, Option.getD_or]
    rfl

/-- A group and a plain word do not disturb each other. -/
theorem takeGroup_takePlain (settings : Settings) (group : Group) (word : String) :
    (settings.takePlain word).takeGroup group = (settings.takeGroup group).takePlain word := by
  obtain ⟨source, format, output, verbosity, leftOver⟩ := settings
  cases source <;> rfl

theorem foldl_takeGroup_takePlain (settings : Settings) (groups : List Group) (word : String) :
    groups.foldl takeGroup (settings.takePlain word) =
      (groups.foldl takeGroup settings).takePlain word := by
  induction groups generalizing settings with
  | nil => rfl
  | cons group rest ih => rw [List.foldl_cons, takeGroup_takePlain, ih, List.foldl_cons]

/-- The groups may be read first and the plain words afterwards. -/
theorem foldl_takeItem (settings : Settings) (items : List Item) :
    items.foldl takeItem settings =
      (items.filterMap Item.plain?).foldl takePlain
        ((items.filterMap Item.group?).foldl takeGroup settings) := by
  induction items generalizing settings with
  | nil => rfl
  | cons item rest ih =>
    rw [List.foldl_cons, ih]
    cases item with
    | option group => rfl
    | plain word dashless =>
      rw [takeItem, foldl_takeGroup_takePlain]
      rfl

theorem foldl_takePlain {settings : Settings} {source : String}
    (named : settings.source = some source) (words : List String) :
    words.foldl takePlain settings = settings.leave words := by
  induction words generalizing settings with
  | nil => simp [leave]
  | cons word rest ih =>
    have taken : settings.takePlain word = settings.leave [word] := by
      unfold takePlain leave
      split
      · rename_i missing
        rw [missing] at named
        cases named
      · rfl
    have still : (settings.leave [word]).source = some source := named
    rw [List.foldl_cons, taken, ih still]
    simp [leave]

end Settings

theorem read_plain (settings : Settings) (adjacent : Bool) {word : String}
    (dashless : Dashless word) (rest : List String) :
    read settings adjacent (word :: rest) =
      read (settings.takePlain word) settings.source.isNone rest := by
  rw [read, if_neg dashless.clear.ne_double, classify_dashless dashless]

theorem read_items (settings : Settings) (adjacent : Bool) (items : List Item) :
    read settings adjacent (items.flatMap Item.words) =
      (items.foldl Settings.takeItem settings).finish := by
  induction items generalizing settings adjacent with
  | nil => rfl
  | cons item rest ih =>
    rw [List.flatMap_cons, List.foldl_cons]
    cases item with
    | option group => exact (read_group settings adjacent group _).trans (ih _ _)
    | plain word dashless => exact (read_plain settings adjacent dashless _).trans (ih _ _)

theorem read_groups (settings : Settings) (adjacent : Bool) (groups : List Group)
    (rest : List String) :
    ∃ later, read settings adjacent (groups.flatMap Group.words ++ rest) =
      read (groups.foldl Settings.takeGroup settings) later rest := by
  induction groups generalizing settings adjacent with
  | nil => exact ⟨adjacent, rfl⟩
  | cons group more ih =>
    rw [List.flatMap_cons, List.append_assoc, read_group]
    exact ih _ _

def plainFault : List String → UsageError
  | [] => .sourceMissing
  | _ :: more => .leftOver more

theorem plainFault_message (words : List String) :
    (plainFault words).message =
      if words = [] then "the following arguments are required: source"
      else "unrecognized arguments: " ++ String.intercalate " " words.tail := by
  cases words <;> rfl

/-- A command line is read by its groups and its plain words, whatever their order. -/
theorem parseWords_items (items : List Item) :
    parseWords (items.flatMap Item.words) =
      match items.filterMap Item.plain? with
      | [word] => .scan (optionsFor (items.filterMap Item.group?) word)
      | words => .usage (plainFault words) := by
  have certain := ambiguity?_append (clear_flatMap Item.clear items) []
  rw [List.append_nil] at certain
  rw [parseWords, certain, ambiguity?]
  simp only [read_items, Settings.foldl_takeItem, Settings.foldl_takeGroup]
  cases items.filterMap Item.plain? with
  | nil => rfl
  | cons word more =>
    -- the first plain word is the source, so all the others are left over
    rw [List.foldl_cons, Settings.foldl_takePlain rfl]
    cases more with
    | nil => simp [Settings.takePlain, Settings.leave, Settings.finish, optionsFor]
    | cons second others => simp [Settings.takePlain, Settings.leave, Settings.finish, plainFault]

theorem parseWords_marked (groups : List Group) (source : String) :
    parseWords (groups.flatMap Group.words ++ ["--", source]) =
      .scan (optionsFor groups source) := by
  have certain : ambiguity? ["--", source] = none := by
    rw [ambiguity?, if_pos rfl]
  obtain ⟨later, reading⟩ := read_groups {} false groups ["--", source]
  rw [parseWords, ambiguity?_append (clear_flatMap Group.clear groups), certain, reading, read,
    if_pos rfl, Settings.foldl_takeGroup]
  simp [readPlain, Settings.takePlain, Settings.leave, Settings.finish, optionsFor]

theorem parse_of_length_ne_one {arguments : List String} (several : arguments.length ≠ 1) :
    parse arguments = parseWords arguments := by
  unfold parse
  split
  · exact absurd rfl several
  · rfl

/-- The options and the plain words of a command line may stand in any order. One plain word is the
source; the verbosity adds up, and of the formats and of the report files the last one counts. With
no plain word or with several, the run ends with status one, a usage message on the error output and
nothing else. After a double dash any word at all is the source. -/
theorem words_read_in_any_order :
    (∀ items : List Item, (items.flatMap Item.words).length ≠ 1 →
      (∀ word, items.filterMap Item.plain? = [word] →
        parse (items.flatMap Item.words) =
          .scan (optionsFor (items.filterMap Item.group?) word)) ∧
      ((items.filterMap Item.plain?).length ≠ 1 →
        ∀ (environment : Option String) (tree : FileTree),
          let ran := run environment tree (items.flatMap Item.words)
          let words := items.filterMap Item.plain?
          ran.1.status = .ok 1 ∧ ran.1.stdout = "" ∧
            ran.1.stderr = [.message (
              "usage: bufscan [-h] [--format \x7bjson,yaml\x7d] [--out OUTPUT_PATH] [-v]\n" ++
              "               [--version]\n" ++
              "               source\n" ++
              "bufscan: error: " ++
                (if words = [] then "the following arguments are required: source"
                else "unrecognized arguments: " ++ String.intercalate " " words.tail) ++
              "\n")] ∧
            ran.2 = tree)) ∧
    ∀ (groups : List Group) (source : String),
      parse (groups.flatMap Group.words ++ ["--", source]) = .scan (optionsFor groups source) := by
  constructor
  · intro items several
    have parsed := (parse_of_length_ne_one several).trans (parseWords_items items)
    constructor
    · intro word alone
      rw [parsed, alone]
    · intro count environment tree
      have refused : parse (items.flatMap Item.words) =
          .usage (plainFault (items.filterMap Item.plain?)) := by
        rw [parsed]
        split
        · rename_i alone
          rw [alone] at count
          exact absurd rfl count
        · rfl
      have ended : run environment tree (items.flatMap Item.words) =
          (usageOutput (plainFault (items.filterMap Item.plain?)), tree) := by
        rw [run, refused]
      rw [ended]
      refine ⟨rfl, rfl, ?_, rfl⟩
      rw [usageOutput, plainFault_message]
      rfl
  · intro groups source
    rw [parse_of_length_ne_one (by simp), parseWords_marked]

theorem options_around_source_read :
    parse ["--out=x", "a.c", "-vv", "--output", "r", "--format", "yaml", "--verbose"] =
      .scan ⟨"a.c", .yaml, some "r", 3⟩ ∧
    (run none (FileTree.empty ["home"]) ["a.c", "-v", "b.c"]).1.stderr =
      [.message ("usage: bufscan [-h] [--format \x7bjson,yaml\x7d] [--out OUTPUT_PATH] [-v]\n" ++
        "               [--version]\n" ++
        "               source\n" ++
        "bufscan: error: unrecognized arguments: b.c\n")] := by
  constructor
  · exact (words_read_in_any_order.1
      [.option (.outputJoined .out "x" (by decide)), .plain "a.c" (by decide),
        .option (.letters 1), .option (.output .output "r" (by decide)), .option (.format .yaml),
        .option .verbose] (by decide)).1 "a.c" rfl
  · exact ((words_read_in_any_order.1
      [.plain "a.c" (by decide), .option (.letters 0), .plain "b.c" (by decide)] (by decide)).2
        (by decide) none (FileTree.empty ["home"])).2.2.1

end OverflowScan.CommandLine
