import Mathlib.Data.List.Induction
import OverflowScan.Loggers
import OverflowScan.Proofs.Log

set_option autoImplicit false

namespace OverflowScan.Loggers

variable {environment : Option String} {loggers : Loggers}

theorem above_of_known {known : List Char → Bool} {c : Char} {rest : List Char}
    (found : known (c :: rest) = true) :
    above known ('.' :: c :: rest) = (c :: rest) :: above known (c :: rest) :=
  (above.eq_1 known c rest).trans (if_pos found)

theorem above_of_unknown {known : List Char → Bool} {c : Char} {rest : List Char}
    (missed : ¬ known (c :: rest) = true) : above known ('.' :: c :: rest) = above known rest :=
  (above.eq_1 known c rest).trans (if_neg missed)

theorem above_of_ne {c : Char} (other : c ≠ '.') (known : List Char → Bool) (rest : List Char) :
    above known (c :: rest) = above known rest :=
  above.eq_2 known c rest fun _ _ dot _ => other dot

theorem above_of_dotless (known : List Char → Bool) {reversed : List Char}
    (dotless : '.' ∉ reversed) : above known reversed = [] := by
  induction reversed with
  | nil => rfl
  | cons c rest ih =>
    obtain ⟨other, later⟩ := not_or.mp (mt List.mem_cons.mpr dotless)
    rw [above_of_ne (Ne.symm other), ih later]

/-- The search for the loggers above one gets to every dot that no other dot follows. -/
theorem above_append (known : List Char → Bool) (tail : List Char) {front : List Char}
    (plain : front.getLast? ≠ some '.') :
    above known (front ++ '.' :: tail) =
      (above (fun part => known (part ++ '.' :: tail)) front).map (· ++ '.' :: tail) ++
        above known ('.' :: tail) := by
  -- the search itself gives the cases; what stands behind the front plays no part in them
  fun_induction above (fun part => known (part ++ '.' :: tail)) front with
  | case1 c rest found ih =>
    rw [List.getLast?_cons_cons] at plain
    rw [List.cons_append] at found ih ⊢
    rw [List.cons_append, above_of_known found, ih plain]
    rfl
  | case2 c rest missed ih =>
    have later : rest.getLast? ≠ some '.' := by
      cases rest with
      | nil => simp
      | cons next more => rwa [List.getLast?_cons_cons, List.getLast?_cons_cons] at plain
    rw [List.cons_append] at missed ⊢
    rw [List.cons_append, above_of_unknown missed, ih later]
  | case3 c rest other ih =>
    -- the dot at the end of the front is the only one that leads nowhere
    have noDot : c ≠ '.' := by
      rintro rfl
      cases rest with
      | nil => exact plain rfl
      | cons next more => exact other next more rfl rfl
    have later : rest.getLast? ≠ some '.' := by
      cases rest with
      | nil => simp
      | cons next more => rwa [List.getLast?_cons_cons] at plain
    rw [List.cons_append, above_of_ne noDot, ih later]
  | case4 => rfl

def reversedBase : List Char := Logger.baseName.toList.reverse

theorem nameOf_eq_base {reversed : List Char} :
    nameOf reversed = Logger.baseName ↔ reversed = reversedBase := by
  rw [← String.toList_inj, nameOf, String.toList_ofList, List.reverse_eq_iff, reversedBase]

theorem reverse_fullName {word : String} (named : word ≠ "") :
    (Logger.fullName (some word)).toList.reverse = word.toList.reverse ++ '.' :: reversedBase := by
  rw [Logger.fullName, if_neg named, String.toList_append, String.toList_append,
    List.reverse_append, List.reverse_append]
  rfl

theorem fullName_cases (name : Option String) :
    Logger.fullName name = Logger.baseName ∨ ∃ word, name = some word ∧ word ≠ "" := by
  cases name with
  | none => exact Or.inl rfl
  | some word =>
    by_cases empty : word = ""
    · exact Or.inl (if_pos empty)
    · exact Or.inr ⟨word, rfl, empty⟩

theorem base_length_lt {word : String} (named : word ≠ "") :
    (Logger.baseName ++ ".").length < (Logger.fullName (some word)).length := by
  have filled : word.length ≠ 0 := mt String.length_eq_zero_iff.mp named
  rw [Logger.fullName, if_neg named, String.length_append (Logger.baseName ++ ".")]
  omega

theorem fullName_ne_dotted (name : Option String) :
    Logger.fullName name ≠ Logger.baseName ++ "." := by
  intro same
  rcases fullName_cases name with base | ⟨word, rfl, named⟩
  · rw [base] at same
    exact absurd same (by decide)
  · have longer := base_length_lt named
    rw [same] at longer
    omega

theorem base_mem_chain_iff (loggers : Loggers) {word : String} (named : word ≠ "") :
    Logger.baseName ∈ loggers.chain (Logger.fullName (some word)) ↔
      reversedBase ∈ above loggers.isKnown (word.toList.reverse ++ '.' :: reversedBase) := by
  have other : Logger.baseName ≠ Logger.fullName (some word) := by
    intro same
    have longer := base_length_lt named
    rw [← same] at longer
    exact absurd longer (by decide)
  rw [chain, reverse_fullName named, List.mem_cons, or_iff_right other, List.mem_map]
  simp only [nameOf_eq_base, exists_eq_right]

/-- A name that does not begin with a dot leads up to the base logger. -/
theorem base_mem_chain (loggers : Loggers) {name : Option String}
    (plain : (name.getD "").toList.head? ≠ some '.') :
    Logger.baseName ∈ loggers.chain (Logger.fullName name) := by
  rcases fullName_cases name with base | ⟨word, rfl, named⟩
  · rw [base]
    exact List.mem_cons_self
  · have known : loggers.isKnown reversedBase = true := by
      rw [isKnown, nameOf_eq_base.mpr rfl]
      exact decide_eq_true List.mem_cons_self
    have found : above loggers.isKnown ('.' :: reversedBase) =
        reversedBase :: above loggers.isKnown reversedBase :=
      above_of_known known
    rw [base_mem_chain_iff loggers named, above_append _ _ (by rwa [List.getLast?_reverse]), found]
    exact List.mem_append_right _ List.mem_cons_self

/-- A name that begins with one dot does not, since the search passes over the dot behind the name
of the base logger. -/
theorem base_not_mem_chain {loggers : Loggers} (named : Logger.baseName ++ "." ∉ loggers.names)
    {rest : String} (plain : rest.toList.head? ≠ some '.') :
    Logger.baseName ∉ loggers.chain (Logger.fullName (some ("." ++ rest))) := by
  have word : "." ++ rest ≠ "" := by
    intro empty
    have shown := congrArg String.toList empty
    rw [String.toList_append] at shown
    cases shown
  have reversed : ("." ++ rest).toList.reverse ++ '.' :: reversedBase =
      rest.toList.reverse ++ '.' :: '.' :: reversedBase := by
    simp
  have unknown : ¬ loggers.isKnown ('.' :: reversedBase) = true := by
    have shown : nameOf ('.' :: reversedBase) = Logger.baseName ++ "." := by decide
    have other : Logger.baseName ++ "." ≠ Logger.baseName := by decide
    rw [isKnown, shown, decide_eq_true_eq, List.mem_cons, or_iff_right other]
    exact named
  have missed : above loggers.isKnown ('.' :: '.' :: reversedBase) = [] := by
    refine (above_of_unknown unknown).trans ?_
    exact above_of_dotless _ (by decide)
  rw [base_mem_chain_iff loggers word, reversed,
    above_append _ _ (by rwa [List.getLast?_reverse]), missed, List.append_nil, List.mem_map]
  rintro ⟨part, -, same⟩
  have longer := congrArg List.length same
  rw [List.length_append, List.length_cons, List.length_cons] at longer
  omega

theorem effectiveLevel_lineage (loggers : Loggers) (full : String) :
    Node.effectiveLevel (loggers.lineage full) =
      if Logger.baseName ∈ loggers.chain full then loggers.base.level else .warning := by
  unfold lineage
  induction loggers.chain full with
  | nil => rfl
  | cons name above ih =>
    rw [List.map_cons, List.cons_append, Node.effectiveLevel, ih, nodeOf]
    by_cases base : name = Logger.baseName
    · rw [if_pos base, base, if_pos List.mem_cons_self]
      rfl
    · rw [if_neg base]
      have other : Logger.baseName ≠ name := Ne.symm base
      simp only [List.mem_cons, other, false_or]
      rfl

theorem handlersReached_lineage {loggers : Loggers} (reserved : loggers.base.propagates = false)
    (full : String) :
    Node.handlersReached (loggers.lineage full) =
      if Logger.baseName ∈ loggers.chain full then loggers.base.handlers else 0 := by
  unfold lineage
  induction loggers.chain full with
  | nil => rfl
  | cons name above ih =>
    rw [List.map_cons, List.cons_append, Node.handlersReached, ih, nodeOf]
    by_cases base : name = Logger.baseName
    · rw [if_pos base, base, if_pos List.mem_cons_self, Node.ofBase, reserved]
      rfl
    · rw [if_neg base]
      have other : Logger.baseName ≠ name := Ne.symm base
      simp only [List.mem_cons, other, false_or, Node.fresh]
      exact Nat.zero_add _

/-- A logger that leads up to the base logger, or does not, whatever other loggers there are. -/
def Settled (full : String) (reaches : Bool) : Prop :=
  ∀ loggers : Loggers, Logger.baseName ++ "." ∉ loggers.names →
    (Logger.baseName ∈ loggers.chain full ↔ reaches = true)

theorem settled_of_plain {name : Option String}
    (plain : (name.getD "").toList.head? ≠ some '.') : Settled (Logger.fullName name) true :=
  fun loggers _ => iff_of_true (loggers.base_mem_chain plain) rfl

theorem settled_of_dot {rest : String} (plain : rest.toList.head? ≠ some '.') :
    Settled (Logger.fullName (some ("." ++ rest))) false :=
  fun _ named => iff_of_false (base_not_mem_chain named plain) Bool.false_ne_true

def levelOf (loggers : Loggers) (reaches : Bool) : Level :=
  if reaches then loggers.base.level else .warning

theorem answer_of_unasked {full : String} {level : Level} {reaches : Bool}
    (leads : Logger.baseName ∈ loggers.chain full ↔ reaches = true)
    (unasked : loggers.answers.lookup (full, level) = none) :
    loggers.answer full level = decide ((loggers.levelOf reaches).rank ≤ level.rank) := by
  rw [answer, unasked, effectiveLevel_lineage, levelOf, Option.getD_none]
  simp only [leads]

/-- Loggers after the first use. The answers of a settled logger are those it would give now. -/
structure InUse (loggers : Loggers) : Prop where
  base : loggers.base.InUse
  named : Logger.baseName ++ "." ∉ loggers.names
  current : ∀ full reaches, Settled full reaches → ∀ level answer,
    loggers.answers.lookup (full, level) = some answer →
      answer = decide ((loggers.levelOf reaches).rank ≤ level.rank)

def start (environment : Option String) : Loggers := unconfigured.acquire environment

theorem inUse_start (environment : Option String) : (start environment).InUse where
  base := Logger.inUse_acquire_unconfigured environment
  named := List.not_mem_nil
  current := by
    intro full reaches settled level answer remembered
    cases remembered

def Use.verbosity? : Use → Option Int
  | .verbosity n => Logger.heard n
  | _ => none

def after (environment : Option String) (loggers : Loggers) (uses : List Use) : Loggers :=
  uses.foldl (fun loggers next => (loggers.use environment next).1) loggers

namespace InUse

theorem acquire_eq (inUse : loggers.InUse) (environment : Option String) :
    loggers.acquire environment = loggers := by
  apply if_neg
  rw [inUse.base.handlers]
  decide

theorem get_eq (inUse : loggers.InUse) (environment : Option String) (name : Option String) :
    loggers.get environment name =
      { loggers with names := loggers.names.insert (Logger.fullName name) } := by
  rw [get, inUse.acquire_eq]

theorem get_inUse (inUse : loggers.InUse) (environment : Option String) (name : Option String) :
    (loggers.get environment name).InUse := by
  rw [inUse.get_eq]
  refine ⟨inUse.base, ?_, inUse.current⟩
  intro member
  rcases List.mem_insert_iff.mp member with same | earlier
  · exact fullName_ne_dotted name same.symm
  · exact inUse.named earlier

theorem setVerbosity_base (inUse : loggers.InUse) (environment : Option String) (n : Int) :
    (loggers.setVerbosity environment n).base =
      { loggers.base with level := Logger.levelFor loggers.base.level (Logger.heard n) } := by
  rw [← inUse.base.setVerbosity_eq environment, setVerbosity, Logger.setVerbosity]
  split <;> rfl

theorem setVerbosity_inUse (inUse : loggers.InUse) (environment : Option String) (n : Int) :
    (loggers.setVerbosity environment n).InUse := by
  have base : (loggers.setVerbosity environment n).base.InUse := by
    rw [inUse.setVerbosity_base]
    exact ⟨inUse.base.handlers, inUse.base.reserved⟩
  by_cases effect : n ≤ 0
  · rwa [setVerbosity, if_pos effect]
  · rw [setVerbosity, if_neg effect] at base ⊢
    refine ⟨base, inUse.named, ?_⟩
    -- with the level the answers are forgotten
    intro full reaches settled level answer remembered
    cases remembered

theorem answer_eq (inUse : loggers.InUse) {full : String} {reaches : Bool}
    (settled : Settled full reaches) (level : Level) :
    loggers.answer full level = decide ((loggers.levelOf reaches).rank ≤ level.rank) := by
  cases remembered : loggers.answers.lookup (full, level) with
  | none => exact answer_of_unasked (settled loggers inUse.named) remembered
  | some answer =>
    rw [Loggers.answer, remembered, Option.getD_some]
    exact inUse.current full reaches settled level answer remembered

theorem log_inUse (inUse : loggers.InUse) (record : Record) : (loggers.log record).1.InUse := by
  refine ⟨inUse.base, inUse.named, ?_⟩
  intro full reaches settled level answer remembered
  rw [log, List.lookup_cons] at remembered
  split at remembered
  · -- the answer just given
    rename_i same
    cases eq_of_beq same
    cases remembered
    exact inUse.answer_eq settled _
  · exact inUse.current full reaches settled level answer remembered

/-- A use changes the level of the base logger if it asks for a verbosity with an effect, and
nothing else about it. -/
theorem use_base (inUse : loggers.InUse) (environment : Option String) (next : Use) :
    (loggers.use environment next).1.base =
      { loggers.base with level := Logger.levelFor loggers.base.level next.verbosity? } := by
  cases next with
  | verbosity n => exact inUse.setVerbosity_base environment n
  | get name => rw [use, inUse.get_eq]; rfl
  | log name level message => rw [use, inUse.get_eq]; rfl

theorem use_inUse (inUse : loggers.InUse) (environment : Option String) (next : Use) :
    (loggers.use environment next).1.InUse := by
  cases next with
  | verbosity n => exact inUse.setVerbosity_inUse environment n
  | get name => exact inUse.get_inUse environment name
  | log name level message => exact (inUse.get_inUse environment name).log_inUse _

theorem after_append (environment : Option String) (loggers : Loggers) (uses : List Use)
    (next : Use) :
    loggers.after environment (uses ++ [next]) =
      ((loggers.after environment uses).use environment next).1 := by
  rw [after, List.foldl_append, after]
  rfl

theorem after_inUse (inUse : loggers.InUse) (environment : Option String) (uses : List Use) :
    (loggers.after environment uses).InUse := by
  induction uses using List.reverseRecOn with
  | nil => exact inUse
  | append_singleton uses next ih =>
    rw [after_append]
    exact ih.use_inUse environment next

/-- Of a history the last verbosity with an effect counts. -/
theorem after_base (inUse : loggers.InUse) (environment : Option String) (uses : List Use) :
    (loggers.after environment uses).base =
      { loggers.base with
        level := Logger.levelFor loggers.base.level
          (uses.filterMap Use.verbosity?).getLast? } := by
  induction uses using List.reverseRecOn with
  | nil => rfl
  | append_singleton uses next ih =>
    rw [after_append, (inUse.after_inUse environment uses).use_base, ih, List.filterMap_append,
      List.getLast?_append]
    cases asked : next.verbosity? with
    | none => simp [asked, Logger.levelFor]
    | some n => simp [asked, Logger.levelFor]

theorem deliver_eq (inUse : loggers.InUse) (record : Record) :
    Node.deliver (loggers.lineage record.logger) record =
      if Logger.baseName ∈ loggers.chain record.logger then [.full record]
      else if Level.warning.rank ≤ record.level.rank then [.bare record.message] else [] := by
  rw [Node.deliver, handlersReached_lineage inUse.base.reserved]
  by_cases reaches : Logger.baseName ∈ loggers.chain record.logger
  · rw [if_pos reaches, if_pos reaches, inUse.base.handlers]
    rfl
  · rw [if_neg reaches, if_neg reaches, if_pos rfl]

/-- A record is written once if the level that counts for its logger lets it through. Without the
base logger above it, only its message is. -/
theorem log_lines (inUse : loggers.InUse) {record : Record} {reaches : Bool}
    (leads : Logger.baseName ∈ loggers.chain record.logger ↔ reaches = true)
    (answered : loggers.answer record.logger record.level =
      decide ((loggers.levelOf reaches).rank ≤ record.level.rank)) :
    (loggers.log record).2 =
      if (loggers.levelOf reaches).rank ≤ record.level.rank then
        [if reaches then .full record else .bare record.message]
      else [] := by
  simp only [log, answered, decide_eq_true_eq, inUse.deliver_eq, leads]
  cases reaches with
  | true => rfl
  | false =>
    -- without the base logger the level that counts is that of the last resort
    by_cases shown : Level.warning.rank ≤ record.level.rank
    · simp [levelOf, shown]
    · simp [levelOf, shown]

section

variable {name : Option String} {level : Level} {reaches : Bool}

theorem use_lines (inUse : loggers.InUse) (message : String)
    (leads : Logger.baseName ∈
      (loggers.get environment name).chain (Logger.fullName name) ↔ reaches = true)
    (answered : (loggers.get environment name).answer (Logger.fullName name) level =
      decide ((loggers.levelOf reaches).rank ≤ level.rank)) :
    (loggers.use environment (.log name level message)).2 =
      if (loggers.levelOf reaches).rank ≤ level.rank then
        [if reaches then .full ⟨level, Logger.fullName name, message⟩ else .bare message]
      else [] := by
  have counts : (loggers.get environment name).levelOf reaches = loggers.levelOf reaches := by
    rw [inUse.get_eq]
    rfl
  rw [← counts] at answered ⊢
  exact (inUse.get_inUse environment name).log_lines leads answered

theorem render_use (inUse : loggers.InUse) (message clock : String)
    (leads : Logger.baseName ∈
      (loggers.get environment name).chain (Logger.fullName name) ↔ reaches = true)
    (answered : (loggers.get environment name).answer (Logger.fullName name) level =
      decide ((loggers.levelOf reaches).rank ≤ level.rank)) :
    (loggers.use environment (.log name level message)).2.map (LogLine.render clock) =
      if (loggers.levelOf reaches).rank ≤ level.rank then
        [if reaches then
          clock ++ " " ++ level.name ++ " [" ++ Logger.fullName name ++ "] " ++ message ++ "\n"
        else message ++ "\n"]
      else [] := by
  rw [inUse.use_lines message leads answered]
  cases reaches <;> split <;> rfl

/-- A settled logger answers as it did before it was asked for. -/
theorem get_answer_eq (inUse : loggers.InUse) (settled : Settled (Logger.fullName name) reaches)
    (environment : Option String) (level : Level) :
    (loggers.get environment name).answer (Logger.fullName name) level =
      decide ((loggers.levelOf reaches).rank ≤ level.rank) := by
  rw [(inUse.get_inUse environment name).answer_eq settled, inUse.get_eq]
  rfl

/-- Under a name that does not begin with a dot, as the passes and the command line have one, a
record is written as the base logger alone would write it. -/
theorem use_log_eq_emit (inUse : loggers.InUse)
    (plain : (name.getD "").toList.head? ≠ some '.') (environment : Option String)
    (level : Level) (message : String) :
    (loggers.use environment (.log name level message)).2 =
      (loggers.base.emit ⟨level, Logger.fullName name, message⟩).map LogLine.full := by
  have settled := settled_of_plain plain
  have leads := settled _ (inUse.get_inUse environment name).named
  rw [inUse.use_lines message leads (inUse.get_answer_eq settled environment level), Logger.emit,
    inUse.base.handlers, Logger.admits, levelOf, if_pos rfl]
  by_cases admitted : loggers.base.level.rank ≤ level.rank
  · rw [if_pos admitted, if_pos (decide_eq_true admitted)]
    rfl
  · rw [if_neg admitted, if_neg (mt of_decide_eq_true admitted)]
    rfl

end

end InUse

/-- A use that configures the base logger if it is not in use yet. A verbosity without effect does
not. -/
def Use.Configures : Use → Prop
  | .verbosity n => 0 < n
  | _ => True

theorem use_unconfigured {next : Use} (configures : next.Configures)
    (environment : Option String) :
    unconfigured.use environment next = (start environment).use environment next := by
  have once := (inUse_start environment).acquire_eq environment
  have same : unconfigured.acquire environment = start environment := rfl
  cases next with
  | verbosity n =>
    have effect : ¬ n ≤ 0 := Int.not_le.mpr configures
    simp only [use, setVerbosity, Logger.setVerbosity, if_neg effect]
    rfl
  | get name => simp only [use, get, once, same]
  | log name level message => simp only [use, get, once, same]

theorem after_unconfigured {uses : List Use} (configured : ∃ next ∈ uses, next.Configures)
    (environment : Option String) :
    unconfigured.after environment uses = (start environment).after environment uses := by
  induction uses with
  | nil =>
    obtain ⟨next, member, -⟩ := configured
    cases member
  | cons next rest ih =>
    by_cases configures : next.Configures
    · rw [after, List.foldl_cons, use_unconfigured configures]
      rfl
    · -- a verbosity without effect leaves both as they are
      obtain ⟨n, rfl, effect⟩ : ∃ n, next = .verbosity n ∧ n ≤ 0 := by
        cases next with
        | verbosity n => exact ⟨n, rfl, Int.not_lt.mp configures⟩
        | get name => exact absurd trivial configures
        | log name level message => exact absurd trivial configures
      have later : ∃ next ∈ rest, next.Configures := by
        obtain ⟨other, member, effective⟩ := configured
        refine ⟨other, (List.mem_cons.mp member).resolve_left ?_, effective⟩
        rintro rfl
        exact configures effective
      have idle (loggers : Loggers) : loggers.after environment (.verbosity n :: rest) =
          loggers.after environment rest := by
        rw [after, List.foldl_cons, use, setVerbosity, if_pos effect, after]
      rw [idle, idle, ih later]

/-- After any history the base logger has one handler and keeps its records to itself. Its level is
that of the last verbosity with an effect, and without one it is the level that the environment
names, or `warning` if it names none. Getting a logger does not change it. A record of a logger that
leads up to the base logger is written once, as one line, exactly if its level is high enough, and
every name that does not begin with a dot leads there. A name that begins with one dot does not: of
its records only the messages are written, from `warning` on. None of this depends on when the
history configures the base logger. -/
theorem logger_fixed_by_last_verbosity (environment : Option String) (uses : List Use) :
    let loggers := (start environment).after environment uses
    let last := (uses.filterMap Use.verbosity?).getLast?
    loggers.base.handlers = 1 ∧ loggers.base.propagates = false ∧
    (∀ n, last = some n → loggers.base.level = if n = 1 then .info else .debug) ∧
    (last = none → loggers.base.level = Logger.environmentLevel environment) ∧
    (∀ level : Level, (environment.getD "").map Logger.capital = level.name →
      Logger.environmentLevel environment = level) ∧
    ((∀ level : Level, (environment.getD "").map Logger.capital ≠ level.name) →
      Logger.environmentLevel environment = .warning) ∧
    (∀ name, (loggers.use environment (.get name)).1.base = loggers.base ∧
      (loggers.use environment (.get name)).2 = []) ∧
    (∀ (name : Option String) (level : Level) (message clock : String),
      let used := loggers.use environment (.log name level message)
      let lines := used.2.map (LogLine.render clock)
      let written :=
        if loggers.base.level.rank ≤ level.rank then
          [clock ++ " " ++ level.name ++ " [" ++ Logger.fullName name ++ "] " ++ message ++ "\n"]
        else []
      used.1.base = loggers.base ∧
      ((name.getD "").toList.head? ≠ some '.' → lines = written) ∧
      (Logger.baseName ∈ (loggers.get environment name).chain (Logger.fullName name) →
        loggers.answers.lookup (Logger.fullName name, level) = none → lines = written) ∧
      ∀ rest, name = some ("." ++ rest) → rest.toList.head? ≠ some '.' →
        lines = if Level.warning.rank ≤ level.rank then [message ++ "\n"] else []) ∧
    ((∃ next ∈ uses, next.Configures) → unconfigured.after environment uses = loggers) := by
  intro loggers last
  have first := inUse_start environment
  have reached := first.after_base environment uses
  have inUse : loggers.InUse := first.after_inUse environment uses
  have level : loggers.base.level = Logger.levelFor (Logger.environmentLevel environment) last :=
    congrArg Logger.level reached
  refine ⟨inUse.base.handlers, inUse.base.reserved, ?_, ?_,
    fun _ => Logger.environmentLevel_of_name, Logger.environmentLevel_of_other, ?_, ?_,
    fun configured => after_unconfigured configured environment⟩
  · intro n asked
    rw [level, asked, Logger.levelFor]
  · intro unasked
    rw [level, unasked, Logger.levelFor]
  · intro name
    rw [use, inUse.get_eq]
    exact ⟨rfl, rfl⟩
  · intro name severity message clock used lines written
    have named := (inUse.get_inUse environment name).named
    have kept : loggers.get environment name =
        { loggers with names := loggers.names.insert (Logger.fullName name) } :=
      inUse.get_eq environment name
    have same : (loggers.get environment name).base = loggers.base := by rw [kept]
    refine ⟨same, ?_, ?_, ?_⟩
    -- a settled name needs no look at the answers, and any other one must not have been asked yet
    · intro plain
      have settled := settled_of_plain plain
      exact inUse.render_use message clock (settled _ named)
        (inUse.get_answer_eq settled environment severity)
    · intro leads unasked
      have reaches := iff_of_true leads (Eq.refl true)
      refine inUse.render_use message clock reaches ?_
      rw [answer_of_unasked reaches (by rwa [kept]), levelOf, same]
      rfl
    · rintro rest rfl plain
      have settled := settled_of_dot plain
      exact inUse.render_use message clock (settled _ named)
        (inUse.get_answer_eq settled environment severity)

/-- A verbosity of one after a higher one, with uses around them that have no effect. -/
theorem lower_verbosity_counts_last :
    let uses : List Use :=
      [.verbosity 0, .verbosity 2, .get (some "cli"), .verbosity 1, .log none .debug "",
        .verbosity (-3)]
    let loggers := (start (some "Error")).after (some "Error") uses
    loggers.base.level = .info ∧ Logger.environmentLevel (some "Error") = .error ∧
    Logger.environmentLevel (some "Error ") = .warning ∧
    unconfigured.after (some "Error") uses = loggers ∧
    (loggers.use (some "Error") (.log (some "a..b") .info "ready")).2.map (LogLine.render "now") =
      ["now INFO [bufscan.a..b] ready\n"] ∧
    (loggers.use (some "Error") (.log (some "..b") .info "ready")).2.map (LogLine.render "now") =
      ["now INFO [bufscan...b] ready\n"] ∧
    (loggers.use (some "Error") (.log (some ".b") .error "lost")).2.map (LogLine.render "now") =
      ["lost\n"] := by
  intro uses loggers
  obtain ⟨-, -, asked, -, named, -, -, written, late⟩ :=
    logger_fixed_by_last_verbosity (some "Error") uses
  obtain ⟨-, -, -, -, -, unnamed, -⟩ := logger_fixed_by_last_verbosity (some "Error ") []
  have level : loggers.base.level = .info := asked 1 (by decide)
  have configures : (Use.verbosity 2).Configures := show (0 : Int) < 2 by decide
  have admitted : loggers.base.level.rank ≤ Level.info.rank :=
    Nat.le_of_eq (congrArg Level.rank level)
  refine ⟨level, named .error (by decide +kernel), unnamed ?_,
    late ⟨.verbosity 2, by decide, configures⟩, ?_, ?_, ?_⟩
  · intro other
    cases other <;> decide +kernel
  · exact ((written (some "a..b") .info "ready" "now").2.1 (by decide)).trans (if_pos admitted)
  · have reaches := (written (some "..b") .info "ready" "now").2.2.1
    exact (reaches (by decide +kernel) (by decide +kernel)).trans (if_pos admitted)
  · exact (written (some ".b") .error "lost" "now").2.2.2 "b" (by decide) (by decide)

/-- At a base level that admits it, a record of a logger whose name begins with a dot is lost: the
search for the loggers above it passes over the base logger. -/
theorem one_dot_misses_base :
    let loggers := start (some "DEBUG")
    loggers.base.level.rank ≤ Level.info.rank ∧
    (loggers.use (some "DEBUG") (.log (some "x") .info "ready")).2.map (LogLine.render "now") =
      ["now INFO [bufscan.x] ready\n"] ∧
    (loggers.use (some "DEBUG") (.log (some ".x") .info "ready")).2 = [] := by
  decide +kernel

end OverflowScan.Loggers
