import OverflowScan.Document.Yaml.Scalar
import OverflowScan.Proofs.Text.Hexadecimal

set_option autoImplicit false

/- Readers of YAML texts, one for each style. Each takes a text off the front of what follows it,
whatever column the text starts at and wherever it is folded (`readScalar_scalar`), so a written
text and the place where it ends are determined by the characters alone. -/
namespace OverflowScan.Yaml

def prepend (c : Char) (read : Option (List Char × List Char)) : Option (List Char × List Char) :=
  read.map fun (text, rest) => (c :: text, rest)

@[simp] theorem prepend_some (c : Char) (text rest : List Char) :
    prepend c (some (text, rest)) = some (c :: text, rest) := rfl

theorem head?_indent {indent : Nat} (spaced : 0 < indent) (rest : List Char) :
    (List.replicate indent ' ' ++ rest).head? = some ' ' := by
  obtain ⟨more, rfl⟩ := Nat.exists_eq_add_of_le' spaced
  rfl

theorem drop_indent (indent : Nat) (rest : List Char) :
    (List.replicate indent ' ' ++ rest).drop indent = rest :=
  List.drop_left' List.length_replicate

/-- What may follow a plain text: a line that has not the indent of its further lines. -/
def EndsText (indent : Nat) (rest : List Char) : Prop :=
  ∃ more, rest = '\n' :: more ∧ ¬ List.replicate indent ' ' <+: more

/-- A plain text goes on as long as the lines are indented. -/
def readPlain (indent : Nat) : List Char → Option (List Char × List Char)
  | [] => some ([], [])
  | c :: rest =>
    if c = '\n' then
      if List.replicate indent ' ' <+: rest then prepend ' ' (readPlain indent (rest.drop indent))
      else some ([], c :: rest)
    else prepend c (readPlain indent rest)
termination_by text => text.length
decreasing_by all_goals simp only [List.length_cons, List.length_drop]; omega

theorem readPlain_plainFrom {folding : Folding} {text rest : List Char} (unbroken : '\n' ∉ text)
    (ends : EndsText folding.indent rest) (column : Nat) (before : Option Char) :
    readPlain folding.indent (plainFrom folding column before text ++ rest) =
      some (text, rest) := by
  induction text generalizing column before with
  | nil =>
      obtain ⟨more, rfl, short⟩ := ends
      rw [plainFrom, List.nil_append, readPlain, if_pos rfl, if_neg short]
  | cons c text ih =>
      obtain ⟨other, unbroken⟩ := List.ne_and_not_mem_of_not_mem_cons unbroken
      rw [plainFrom]
      split
      · rename_i folded
        rw [List.append_assoc, newLine, List.cons_append, readPlain, if_pos rfl,
          if_pos (List.prefix_append _ _), drop_indent, ih unbroken, prepend_some, folded.1]
      · rw [List.cons_append, readPlain, if_neg (Ne.symm other), ih unbroken, prepend_some]

/-- The inside of single quotes, up to the closing one. A line feed is a folded space or the first
of several breaks, unless it is inside of them. -/
def readSingle (indent : Nat) (inside : Bool) : List Char → Option (List Char × List Char)
  | [] => none
  | c :: rest =>
    if c = '\'' then
      if rest.head? = some '\'' then prepend '\'' (readSingle indent false rest.tail)
      else some ([], rest)
    else if isBreak c then
      if rest.head?.any isBreak then
        if inside || c ≠ '\n' then prepend c (readSingle indent true rest)
        else readSingle indent true rest
      else
        prepend (if inside || c ≠ '\n' then c else ' ') (readSingle indent false (rest.drop indent))
    else prepend c (readSingle indent false rest)
termination_by text => text.length
decreasing_by
  all_goals simp only [List.length_cons, List.length_drop, List.length_tail]
  all_goals omega

section

variable {indent : Nat} {inside : Bool} {c d : Char} {rest : List Char}

theorem ne_quote_of_isBreak (broken : isBreak c) : c ≠ '\'' := by
  rintro rfl
  exact absurd broken (by decide)

theorem ne_space_of_isBreak (broken : isBreak c) : c ≠ ' ' := by
  rintro rfl
  exact absurd broken (by decide)

theorem readSingle_close (ends : rest.head? ≠ some '\'') :
    readSingle indent inside ('\'' :: rest) = some ([], rest) := by
  rw [readSingle, if_pos rfl, if_neg ends]

theorem readSingle_quote :
    readSingle indent inside ('\'' :: '\'' :: rest) =
      prepend '\'' (readSingle indent false rest) := by
  rw [readSingle, if_pos rfl, List.head?_cons, if_pos rfl, List.tail_cons]

theorem readSingle_other (noQuote : c ≠ '\'') (unbroken : ¬ isBreak c) :
    readSingle indent inside (c :: rest) = prepend c (readSingle indent false rest) := by
  rw [readSingle, if_neg noQuote, if_neg unbroken]

theorem readSingle_break (broken : isBreak c) (again : isBreak d) (itself : inside ∨ c ≠ '\n') :
    readSingle indent inside (c :: d :: rest) = prepend c (readSingle indent true (d :: rest)) := by
  rw [readSingle, if_neg (ne_quote_of_isBreak broken), if_pos broken, List.head?_cons,
    Option.any_some, if_pos again, if_pos (by simpa using itself)]

theorem readSingle_feed (again : isBreak d) :
    readSingle indent false ('\n' :: d :: rest) = readSingle indent true (d :: rest) := by
  rw [readSingle, if_neg (by decide), if_pos (by decide), List.head?_cons, Option.any_some,
    if_pos again, if_neg (by decide)]

theorem readSingle_lastBreak (spaced : 0 < indent) (broken : isBreak c) :
    readSingle indent inside (c :: (List.replicate indent ' ' ++ rest)) =
      prepend (if inside || c ≠ '\n' then c else ' ') (readSingle indent false rest) := by
  have next : ¬ (List.replicate indent ' ' ++ rest).head?.any isBreak := by
    rw [head?_indent spaced]
    decide
  rw [readSingle, if_neg (ne_quote_of_isBreak broken), if_pos broken, if_neg next, drop_indent]

end

section

variable {folding : Folding} {column : Nat} {before : Option Char} {c : Char}
  {text tail rest : List Char}

def brokenLine (folding : Folding) (c : Char) (text : List Char) : List Char :=
  if text.head?.any isBreak then c :: singleFrom folding 0 c text
  else c :: List.replicate folding.indent ' ' ++ singleFrom folding folding.indent c text

theorem brokenLine_eq_cons (folding : Folding) (c : Char) (text : List Char) :
    ∃ more, brokenLine folding c text = c :: more := by
  unfold brokenLine
  split
  · exact ⟨_, rfl⟩
  · exact ⟨_, rfl⟩

theorem singleFrom_of_isBreak (broken : isBreak c) :
    singleFrom folding column before (c :: text) =
      (if c = '\n' ∧ ¬ before.any isBreak then ['\n'] else []) ++ brokenLine folding c text := by
  rw [singleFrom, if_neg (fun folded => ne_space_of_isBreak broken folded.1),
    if_neg (ne_quote_of_isBreak broken), if_pos broken]
  rfl

/-- A line of breaks is read back if what it ends with is. -/
theorem readSingle_brokenLine {inside : Bool} (spaced : 0 < folding.indent) (broken : isBreak c)
    (itself : inside ∨ c ≠ '\n')
    (read : ∀ column, readSingle folding.indent (text.head?.any isBreak)
      (singleFrom folding column c text ++ tail) = some (text, rest)) :
    readSingle folding.indent inside (brokenLine folding c text ++ tail) =
      some (c :: text, rest) := by
  unfold brokenLine
  split
  · rename_i again
    have behind := read 0
    rw [again] at behind
    cases text with
    | nil => exact absurd again (by simp)
    | cons d text =>
        -- Behind a break no line feed is written twice, so the next break stands at once.
        have once : ¬ (d = '\n' ∧ ¬ (some c).any isBreak) := fun first => first.2 broken
        obtain ⟨more, written⟩ := brokenLine_eq_cons folding d text
        rw [singleFrom_of_isBreak again, if_neg once, List.nil_append, written,
          List.cons_append] at behind ⊢
        rw [List.cons_append, readSingle_break broken again itself, behind, prepend_some]
  · rename_i single
    have behind := read folding.indent
    rw [Bool.eq_false_iff.mpr single] at behind
    rw [List.append_assoc, List.cons_append, readSingle_lastBreak spaced broken,
      if_pos (by simpa using itself), behind, prepend_some]

theorem readSingle_singleFrom_break (spaced : 0 < folding.indent) (broken : isBreak c)
    (read : ∀ column, readSingle folding.indent (text.head?.any isBreak)
      (singleFrom folding column c text ++ tail) = some (text, rest)) :
    readSingle folding.indent (before.any isBreak)
      (singleFrom folding column before (c :: text) ++ tail) = some (c :: text, rest) := by
  rw [singleFrom_of_isBreak broken, List.append_assoc]
  split
  · rename_i first
    obtain ⟨rfl, fresh⟩ := first
    have line := readSingle_brokenLine spaced broken (Or.inl rfl) read
    obtain ⟨more, written⟩ := brokenLine_eq_cons folding '\n' text
    rw [written, List.cons_append] at line
    rw [Bool.eq_false_iff.mpr fresh, written, List.singleton_append, List.cons_append,
      readSingle_feed broken, line]
  · rename_i other
    apply readSingle_brokenLine spaced broken ?_ read
    by_cases inside : before.any isBreak
    · exact Or.inl inside
    · exact Or.inr fun feed => other ⟨feed, inside⟩

theorem readSingle_singleFrom (spaced : 0 < folding.indent) (ends : rest.head? ≠ some '\'')
    (column : Nat) (before : Option Char) :
    readSingle folding.indent (before.any isBreak && text.head?.any isBreak)
      (singleFrom folding column before text ++ '\'' :: rest) = some (text, rest) := by
  -- The reader is inside of several breaks if one was just passed and another one follows.
  induction text generalizing column before with
  | nil => exact readSingle_close ends
  | cons c text ih =>
      have behind (column : Nat) : readSingle folding.indent (isBreak c && text.head?.any isBreak)
          (singleFrom folding column c text ++ '\'' :: rest) = some (text, rest) :=
        ih column (some c)
      rw [List.head?_cons, Option.any_some]
      by_cases broken : isBreak c
      · rw [broken, Bool.true_and] at behind
        rw [broken, Bool.and_true]
        exact readSingle_singleFrom_break spaced broken behind
      · rw [Bool.eq_false_iff.mpr broken, Bool.false_and] at behind
        rw [Bool.eq_false_iff.mpr broken, Bool.and_false, singleFrom]
        split
        · rename_i folded
          rw [List.append_assoc, newLine, List.cons_append, readSingle_lastBreak spaced (by decide),
            behind, prepend_some, folded.1]
          rfl
        · split
          · rename_i quote
            rw [List.cons_append, List.cons_append, readSingle_quote, behind, prepend_some, quote]
          · rename_i noQuote
            rw [List.cons_append, readSingle_other noQuote broken, behind, prepend_some]

end

def letters : List (Char × Char) :=
  [('0', '\x00'), ('a', '\x07'), ('b', '\x08'), ('t', '\t'), ('n', '\n'), ('v', '\x0b'),
   ('f', '\x0c'), ('r', '\r'), ('e', '\x1b'), ('"', '"'), ('\\', '\\'), ('N', '\x85'),
   ('L', '\u2028'), ('P', '\u2029'), (' ', ' ')]

def digitsAfter (letter : Char) : Nat :=
  if letter = 'x' then 2 else if letter = 'u' then 4 else if letter = 'U' then 8 else 0

def escaped? (letter : Char) (digits : List Char) : Option Char :=
  if digitsAfter letter = 0 then letters.lookup letter
  else (Text.hexNumber? digits).map Char.ofNat

/-- The inside of double quotes, up to the closing one. A backslash at the end of a line stands for
nothing, and so does the indent behind it. The mark of a space that was then folded itself stands in
front of such a backslash. -/
def readDouble (indent : Nat) : List Char → Option (List Char × List Char)
  | [] => none
  | c :: rest =>
    if c = '"' then some ([], rest)
    else if c ≠ '\\' then prepend c (readDouble indent rest)
    else
      match rest with
      | [] => none
      | letter :: more =>
        if letter = '\n' then readDouble indent (more.drop indent)
        else if letter = '\\' ∧ more.head? = some '\n' then readDouble indent (letter :: more)
        else
          match escaped? letter (more.take (digitsAfter letter)) with
          | none => none
          | some c => prepend c (readDouble indent (more.drop (digitsAfter letter)))
termination_by text => text.length
decreasing_by
  all_goals simp only [List.length_cons, List.length_drop]
  all_goals omega

section

variable {indent : Nat} {c letter : Char} {rest : List Char}

theorem readDouble_plain (noQuote : c ≠ '"') (noMark : c ≠ '\\') :
    readDouble indent (c :: rest) = prepend c (readDouble indent rest) := by
  rw [readDouble.eq_def]
  simp only [if_neg noQuote, if_pos noMark]

theorem readDouble_close : readDouble indent ('"' :: rest) = some ([], rest) := by
  rw [readDouble.eq_def]
  rfl

theorem readDouble_fold :
    readDouble indent ('\\' :: newLine indent ++ rest) = readDouble indent rest := by
  rw [newLine, List.cons_append, List.cons_append, readDouble, if_neg (by decide),
    if_neg (by decide), if_pos rfl, drop_indent]

theorem readDouble_escaped (digits : List Char) (escaped : escaped? letter digits = some c)
    (width : digits.length = digitsAfter letter) (inline : letter ≠ '\n')
    (ends : letter = '\\' → (digits ++ rest).head? ≠ some '\n') :
    readDouble indent ('\\' :: letter :: (digits ++ rest)) =
      prepend c (readDouble indent rest) := by
  have goesOn : ¬ (letter = '\\' ∧ (digits ++ rest).head? = some '\n') :=
    fun mark => ends mark.1 mark.2
  rw [readDouble, if_neg (by decide), if_neg (by decide), if_neg inline, if_neg goesOn,
    List.take_left' width, List.drop_left' width, escaped]

theorem readDouble_space :
    readDouble indent ('\\' :: ' ' :: rest) = prepend ' ' (readDouble indent rest) :=
  readDouble_escaped [] rfl rfl (by decide) fun mark => absurd mark (by decide)

theorem readDouble_spaceMark {next : Option Char}
    (marked : next = some ' ' → [' '] <+: rest ∨ ['\\', '\n'] <+: rest) :
    readDouble indent (spaceMark next ++ rest) = readDouble indent rest := by
  unfold spaceMark
  split
  · rename_i space
    rcases marked space with kept | fold
    · obtain ⟨more, rfl⟩ := kept
      rw [List.singleton_append, List.singleton_append, readDouble_space,
        readDouble_plain (by decide) (by decide)]
    · obtain ⟨more, rfl⟩ := fold
      rw [List.singleton_append, List.cons_append, List.cons_append, readDouble,
        if_neg (by decide), if_neg (by decide), if_neg (by decide), if_pos ⟨rfl, rfl⟩]
  · rfl

end

theorem hexUpper_eq_map (digits n : Nat) :
    hexUpper digits n = (Text.hexPadded digits n).map Char.toUpper := by
  rw [hexUpper, Text.hexPadded, List.map_append, List.map_replicate, List.length_map]
  rfl

theorem hexAppend?_toUpper (n : Nat) {digit : Nat} (small : digit < 16) :
    Text.hexAppend? n (Nat.digitChar digit).toUpper =
      Text.hexAppend? n (Nat.digitChar digit) := by
  have same : ∀ digit, digit < 16 → Text.hexValue? (Nat.digitChar digit).toUpper =
      Text.hexValue? (Nat.digitChar digit) := by decide
  rw [Text.hexAppend?, Text.hexAppend?, same digit small]

theorem foldlM_hexAppend?_toUpper {digits : List Char}
    (hexadecimal : ∀ c ∈ digits, ∃ digit, digit < 16 ∧ c = Nat.digitChar digit) (n : Nat) :
    (digits.map Char.toUpper).foldlM Text.hexAppend? n = digits.foldlM Text.hexAppend? n := by
  induction digits generalizing n with
  | nil => rfl
  | cons c digits ih =>
      obtain ⟨⟨digit, small, rfl⟩, others⟩ := List.forall_mem_cons.mp hexadecimal
      rw [List.map_cons, List.foldlM_cons, List.foldlM_cons, hexAppend?_toUpper n small]
      simp only [ih others]

theorem hexNumber?_hexUpper (digits n : Nat) : Text.hexNumber? (hexUpper digits n) = some n := by
  rw [hexUpper_eq_map, ← Text.hexNumber?_hexPadded digits n]
  apply foldlM_hexAppend?_toUpper
  intro c member
  rcases List.mem_append.mp member with zero | shown
  · exact ⟨0, by decide, List.eq_of_mem_replicate zero⟩
  · exact Text.mem_toDigits_hex shown

theorem length_hexUpper {digits n : Nat} (positive : 0 < digits) (fits : n < Nat.pow 16 digits) :
    (hexUpper digits n).length = digits := by
  rw [hexUpper_eq_map, List.length_map, Text.length_hexPadded positive fits]

theorem escaped?_of_shortEscape? {c letter : Char} (short : shortEscape? c = some letter) :
    escaped? letter [] = some c ∧ digitsAfter letter = 0 ∧ letter ≠ '\n' := by
  obtain ⟨before, after, table, -⟩ := List.lookup_eq_some_iff.mp short
  have known : (c, letter) ∈ before ++ (c, letter) :: after := by simp
  rw [← table] at known
  refine (?all : ∀ entry ∈ _, escaped? entry.2 [] = some entry.1 ∧ digitsAfter entry.2 = 0 ∧
    entry.2 ≠ '\n') (c, letter) known
  decide

/-- The escape of a character is read off the front of what follows it. -/
theorem readDouble_escape {indent : Nat} {rest : List Char} (c : Char)
    (ends : rest.head? ≠ some '\n') :
    readDouble indent (escape c ++ rest) = prepend c (readDouble indent rest) := by
  unfold escape
  split
  · rename_i letter short
    obtain ⟨escaped, width, inline⟩ := escaped?_of_shortEscape? short
    exact readDouble_escaped [] escaped width.symm inline fun _ => ends
  · have bound : c.toNat < Nat.pow 16 8 := c.val.toNat_lt
    have numbered (letter : Char) (width : 0 < digitsAfter letter) (inline : letter ≠ '\n')
        (other : letter ≠ '\\') (fits : c.toNat < Nat.pow 16 (digitsAfter letter)) :
        readDouble indent ('\\' :: letter :: (hexUpper (digitsAfter letter) c.toNat ++ rest)) =
          prepend c (readDouble indent rest) := by
      apply readDouble_escaped _ ?_ (length_hexUpper width fits) inline
        fun same => absurd same other
      rw [escaped?, if_neg (by omega), hexNumber?_hexUpper, Option.map_some, Char.ofNat_toNat]
    split
    · rename_i fits
      exact numbered 'x' (by decide) (by decide) (by decide) (Nat.lt_succ_of_le fits)
    · split
      · rename_i fits
        exact numbered 'u' (by decide) (by decide) (by decide) (Nat.lt_succ_of_le fits)
      · exact numbered 'U' (by decide) (by decide) (by decide) bound

theorem escape_eq_cons (c : Char) : ∃ more, escape c = '\\' :: more := by
  unfold escape
  split
  · exact ⟨_, rfl⟩
  · split
    · exact ⟨_, rfl⟩
    · split
      · exact ⟨_, rfl⟩
      · exact ⟨_, rfl⟩

/-- What marks a place between double quotes is written by an escape. -/
theorem not_mark_of_not_isEscaped {c : Char} (itself : ¬ isEscaped c) :
    c ≠ '"' ∧ c ≠ '\\' ∧ c ≠ '\n' := by
  refine ⟨?_, ?_, ?_⟩ <;> rintro rfl <;> exact itself (by decide)

section

variable {folding : Folding} {first fresh : Bool} {column : Nat} {text rest : List Char}

/-- No line feed stands between double quotes but behind a backslash. -/
theorem head?_doubleFrom :
    (doubleFrom folding first fresh column text ++ '"' :: rest).head? ≠ some '\n' := by
  cases text with
  | nil => simp [doubleFrom]
  | cons c text =>
      obtain ⟨more, escaped⟩ := escape_eq_cons c
      rw [doubleFrom]
      split
      · dsimp only
        split
        · simp [escaped]
        · simp [escaped]
      · rename_i itself
        split
        · simp
        · simpa using (not_mark_of_not_isEscaped itself).2.2

theorem doubleFrom_space (space : text.head? = some ' ') :
    [' '] <+: doubleFrom folding first fresh column text ++ rest ∨
      ['\\', '\n'] <+: doubleFrom folding first fresh column text ++ rest := by
  obtain ⟨more, rfl⟩ := List.head?_eq_some_iff.mp space
  rw [doubleFrom, if_neg (by decide)]
  split
  · exact Or.inr ⟨_, rfl⟩
  · exact Or.inl ⟨_, rfl⟩

theorem readDouble_doubleFrom :
    readDouble folding.indent (doubleFrom folding first fresh column text ++ '"' :: rest) =
      some (text, rest) := by
  induction text generalizing first fresh column with
  | nil => exact readDouble_close
  | cons c text ih =>
      rw [doubleFrom]
      -- an escaped character and one that stands for itself, each with the line folded or not
      split
      · dsimp only
        split
        · have ends (more : List Char) :
              ('\\' :: newLine folding.indent ++ more).head? ≠ some '\n' := by simp
          rw [List.append_assoc, List.append_assoc, List.append_assoc,
            readDouble_escape c (ends _), readDouble_fold, readDouble_spaceMark doubleFrom_space,
            ih, prepend_some]
        · rw [List.append_assoc, readDouble_escape c head?_doubleFrom, ih, prepend_some]
      · rename_i itself
        obtain ⟨noQuote, noMark, -⟩ := not_mark_of_not_isEscaped itself
        split
        · have kept (more : List Char) (space : some c = some ' ') :
              [' '] <+: c :: more ∨ ['\\', '\n'] <+: c :: more :=
            Or.inl ⟨more, by rw [Option.some.inj space, List.singleton_append]⟩
          rw [List.append_assoc, List.append_assoc, readDouble_fold, List.cons_append,
            readDouble_spaceMark (kept _), readDouble_plain noQuote noMark, ih, prepend_some]
        · rw [List.cons_append, readDouble_plain noQuote noMark, ih, prepend_some]

end

def readScalar (indent : Nat) (text : List Char) : Option (List Char × List Char) :=
  if text.head? = some '\'' then readSingle indent false text.tail
  else if text.head? = some '"' then readDouble indent text.tail
  else readPlain indent text

theorem isPlain_of_styleOf {text : List Char} (style : styleOf text = .plain) : isPlain text := by
  unfold styleOf at style
  split at style
  · assumption
  · split at style <;> cases style

theorem exists_cons_of_isPlain {text : List Char} (plain : isPlain text) :
    ∃ c rest, text = c :: rest ∧ c ≠ ' ' ∧ ¬ isLeadingIndicator c ∧
      ¬ (c = '-' ∧ endsHere rest) := by
  cases text with
  | nil => exact absurd plain (by decide)
  | cons c rest =>
      simp only [isPlain, hasIndicator, Bool.and_eq_true, Bool.not_eq_true', Bool.or_eq_false_iff,
        List.head?_cons, bne_iff_ne, ne_eq, Option.some.injEq] at plain
      obtain ⟨⟨⟨⟨⟨-, noSpace⟩, -⟩, -⟩, ⟨⟨-, noIndicator⟩, noMark⟩, -⟩, -⟩ := plain
      refine ⟨c, rest, rfl, noSpace, Bool.eq_false_iff.mp noIndicator, ?_⟩
      intro mark
      simp [mark.1, mark.2] at noMark

theorem unbroken_of_isPlain {text : List Char} (plain : isPlain text) : '\n' ∉ text := by
  simp only [isPlain, Bool.and_eq_true, List.all_eq_true] at plain
  obtain ⟨⟨⟨-, shown⟩, -⟩, -⟩ := plain
  intro broken
  exact absurd (shown '\n' broken) (by decide)

/-- A character that is not a space stands at once. -/
theorem plainFrom_cons {folding : Folding} {column : Nat} {before : Option Char} {c : Char}
    {rest : List Char} (noSpace : c ≠ ' ') :
    plainFrom folding column before (c :: rest) = c :: plainFrom folding (column + 1) c rest := by
  rw [plainFrom, if_neg fun folded => noSpace folded.1]

/-- A text is read back from what is written for it, and its end is found. -/
theorem readScalar_scalar {folding : Folding} {rest : List Char} (spaced : 0 < folding.indent)
    (ends : EndsText folding.indent rest) (column : Nat) (text : List Char) :
    readScalar folding.indent (scalar folding column text ++ rest) = some (text, rest) := by
  unfold scalar
  split
  · rename_i style
    have plain := isPlain_of_styleOf style
    obtain ⟨c, more, rfl, noSpace, noIndicator, -⟩ := exists_cons_of_isPlain plain
    have read := readPlain_plainFrom (unbroken_of_isPlain plain) ends column none
    have single : c ≠ '\'' := by
      rintro rfl
      exact noIndicator (by decide)
    have double : c ≠ '"' := by
      rintro rfl
      exact noIndicator (by decide)
    rw [plainFrom_cons noSpace, List.cons_append] at read ⊢
    rw [readScalar, List.head?_cons, if_neg (by simpa using single), if_neg (by simpa using double),
      read]
  · have noQuote : rest.head? ≠ some '\'' := by
      obtain ⟨more, rfl, -⟩ := ends
      simp
    rw [List.cons_append, List.cons_append, List.append_assoc, List.singleton_append, readScalar,
      List.head?_cons, if_pos rfl, List.tail_cons]
    exact readSingle_singleFrom spaced noQuote (column + 1) none
  · rw [List.cons_append, List.cons_append, List.append_assoc, List.singleton_append, readScalar,
      List.head?_cons, if_neg (by decide), if_pos rfl, List.tail_cons]
    exact readDouble_doubleFrom

end OverflowScan.Yaml
