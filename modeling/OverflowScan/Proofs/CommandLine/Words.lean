import OverflowScan.CommandLine.Parse

set_option autoImplicit false

namespace OverflowScan.CommandLine

def Dashless (word : String) : Prop :=
  word.toList.head? ≠ some '-'

instance (word : String) : Decidable (Dashless word) :=
  inferInstanceAs (Decidable (word.toList.head? ≠ some '-'))

theorem classify_dashless {word : String} (dashless : Dashless word) : classify word = .plain := by
  unfold classify
  split
  · rename_i rest dash
    exact absurd (congrArg List.head? dash) dashless
  · rfl

theorem spelling?_of_equals {text : List Char} (equals : '=' ∈ text) : spelling? text = none := by
  have without : ∀ spelling ∈ spellings, '=' ∉ spelling.text.toList := by decide
  apply List.find?_eq_none.mpr
  intro spelling member
  rw [decide_eq_true_eq]
  intro same
  exact without spelling member (same ▸ equals)

theorem splitEquals_append {name : List Char} (plain : '=' ∉ name) (rest : List Char) :
    splitEquals (name ++ rest) = (name ++ (splitEquals rest).1, (splitEquals rest).2) := by
  have passed : ∀ c ∈ name, decide (c ≠ '=') = true := by
    intro c member
    rw [decide_eq_true_eq]
    rintro rfl
    exact plain member
  unfold splitEquals
  rw [List.takeWhile_append_of_pos passed, List.dropWhile_append_of_pos passed]

theorem splitEquals_joined {name : List Char} (plain : '=' ∉ name) (value : List Char) :
    splitEquals (name ++ '=' :: value) = (name, some value) := by
  rw [splitEquals_append plain]
  simp [splitEquals]

theorem splitEquals_plain {text : List Char} (plain : '=' ∉ text) :
    splitEquals text = (text, none) := by
  simpa [splitEquals] using splitEquals_append plain []

theorem classify_of_inexact {word : String} (dash : word.toList.head? = some '-')
    (longer : 1 < word.toList.length) (inexact : spelling? word.toList = none) :
    classify word = classifyInexact word.toList := by
  unfold classify
  split
  · rename_i rest spelled
    have filled : rest.isEmpty = false := by
      rw [spelled, List.length_cons] at longer
      exact List.isEmpty_eq_false_iff.mpr (List.ne_nil_of_length_pos (by omega))
    rw [inexact, filled]
    rfl
  · rename_i other
    obtain ⟨rest, spelled⟩ := List.head?_eq_some_iff.mp dash
    exact absurd spelled (other rest)

theorem classify_joined {name : String} {flag : Flag}
    (exact : spelling? name.toList = some ⟨name, flag⟩) (long : "--".toList <+: name.toList)
    (plain : '=' ∉ name.toList) (value : String) :
    classify (name ++ "=" ++ value) = .long flag (some value.toList) := by
  have whole : (name ++ "=" ++ value).toList = name.toList ++ '=' :: value.toList := by
    simp
  have opening : "--".toList.isPrefixOf name.toList = true := List.isPrefixOf_iff_prefix.mpr long
  obtain ⟨more, split⟩ := long
  rw [classify_of_inexact]
  · rw [whole]
    simp only [classifyInexact, splitEquals_joined plain, exact, Word.ofSpelling, opening, if_true]
  · rw [whole, ← split]
    rfl
  · rw [whole, ← split]
    simp
  · rw [whole]
    exact spelling?_of_equals (by simp)

/-- Two letters or more are the first one and the others attached to it. -/
theorem classify_letters (more : Nat) :
    classify (String.ofList ('-' :: List.replicate (more + 2) 'v')) =
      .short .verbose (some ('v' :: List.replicate more 'v')) := by
  have spelled : (String.ofList ('-' :: List.replicate (more + 2) 'v')).toList =
      '-' :: 'v' :: 'v' :: List.replicate more 'v' := String.toList_ofList
  have plain : '=' ∉ '-' :: 'v' :: 'v' :: List.replicate more 'v' := by simp
  have third : ∀ spelling ∈ spellings, spelling.text.toList.take 3 ≠ ['-', 'v', 'v'] := by decide
  have first : spelling? ['-', 'v'] = some ⟨"-v", .verbose⟩ := by decide
  have inexact : spelling? ('-' :: 'v' :: 'v' :: List.replicate more 'v') = none := by
    apply List.find?_eq_none.mpr
    intro spelling member
    rw [decide_eq_true_eq]
    intro same
    exact third spelling member (by rw [same]; rfl)
  have short : "--".toList.isPrefixOf ('-' :: 'v' :: 'v' :: List.replicate more 'v') = false := rfl
  rw [classify_of_inexact]
  · rw [spelled]
    simp only [classifyInexact, splitEquals_plain plain, inexact, short, Bool.false_eq_true,
      if_false, List.take_succ_cons, List.take_zero, first, List.drop_succ_cons, List.drop_zero]
  · rw [spelled]
    rfl
  · rw [spelled]
    simp
  · rw [spelled]
    exact inexact

/-- A word that is not ambiguous. The double dash is, since it opens every long option. -/
def Clear (word : String) : Prop :=
  ∀ candidates, classify word ≠ .ambiguous candidates

theorem Clear.ne_double {word : String} (clear : Clear word) : word ≠ "--" := by
  rintro rfl
  exact clear ["--help", "--format", "--out", "--output", "--verbose", "--version"] (by decide)

theorem clear_of_classify {word : String} {meaning : Word} (known : classify word = meaning)
    (certain : ∀ candidates, meaning ≠ .ambiguous candidates) : Clear word := by
  unfold Clear
  rw [known]
  exact certain

theorem Dashless.clear {word : String} (dashless : Dashless word) : Clear word :=
  clear_of_classify (classify_dashless dashless) (by simp)

theorem isValue_dashless {word : String} (dashless : Dashless word) : isValue word = true := by
  simp [isValue, dashless.clear.ne_double, classify_dashless dashless]

theorem clear_flatMap {α : Type} {words : α → List String}
    (clear : ∀ part, ∀ word ∈ words part, Clear word) (parts : List α) :
    ∀ word ∈ parts.flatMap words, Clear word := by
  intro word member
  obtain ⟨part, -, among⟩ := List.mem_flatMap.mp member
  exact clear part word among

/-- Clear words in front do not change which option is found to be ambiguous. -/
theorem ambiguity?_append {words : List String} (clear : ∀ word ∈ words, Clear word)
    (rest : List String) : ambiguity? (words ++ rest) = ambiguity? rest := by
  induction words with
  | nil => rfl
  | cons word more ih =>
    obtain ⟨first, later⟩ := List.forall_mem_cons.mp clear
    rw [List.cons_append, ambiguity?, if_neg first.ne_double]
    split
    · rename_i candidates ambiguous
      exact absurd ambiguous (first candidates)
    · exact ih later

end OverflowScan.CommandLine
