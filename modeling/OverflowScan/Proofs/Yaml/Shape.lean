import OverflowScan.Document.Yaml
import OverflowScan.Proofs.Json.Reader
import OverflowScan.Proofs.Json.Writer
import OverflowScan.Proofs.Yaml.Reader

set_option autoImplicit false

namespace OverflowScan.Yaml

/-- What may follow a value whose key stands at the column `indent`: a line that is not further
indented and is no item of a list at that column. -/
structure Closes (indent : Nat) (rest : List Char) : Prop where
  endsText : EndsText (indent + 1) rest
  noItem : ¬ newLine indent ++ ['-', ' '] <+: rest

section

variable {indent : Nat} {rest : List Char}

theorem EndsText.succ (ends : EndsText indent rest) : EndsText (indent + 1) rest := by
  obtain ⟨more, shape, short⟩ := ends
  refine ⟨more, shape, fun deeper => short (.trans ?_ deeper)⟩
  rw [List.replicate_succ']
  exact List.prefix_append _ _

theorem EndsText.closes (ends : EndsText indent rest) : Closes indent rest where
  endsText := ends.succ
  noItem item := by
    obtain ⟨more, rfl, short⟩ := ends
    obtain ⟨-, indented⟩ := List.cons_prefix_cons.mp item
    exact short ((List.prefix_append _ _).trans indented)

theorem Closes.succ (closes : Closes indent rest) : Closes (indent + 1) rest :=
  closes.endsText.closes

theorem closes_end (indent : Nat) : Closes indent ['\n'] where
  endsText := ⟨[], rfl, by simp⟩
  noItem := by simp [newLine]

theorem endsText_newLine (flush : ¬ [' '] <+: rest) :
    EndsText (indent + 1) (newLine indent ++ rest) := by
  refine ⟨List.replicate indent ' ' ++ rest, rfl, ?_⟩
  rw [List.replicate_succ', List.prefix_append_right_inj]
  exact flush

theorem Closes.noDigit (closes : Closes indent rest) : Json.NoDigit rest := by
  obtain ⟨more, rfl, -⟩ := closes.endsText
  intro c feed
  obtain rfl := Option.mem_some.mp feed
  rfl

end

theorem scalar_append_injective {folding : Folding} {column : Nat}
    {first second rest tail : List Char} (spaced : 0 < folding.indent)
    (ends : EndsText folding.indent rest) (ends' : EndsText folding.indent tail)
    (same : scalar folding column first ++ rest = scalar folding column second ++ tail) :
    first = second ∧ rest = tail := by
  have read := readScalar_scalar spaced ends column first
  rw [same, readScalar_scalar spaced ends'] at read
  have equal := Option.some.inj read
  exact ⟨(congrArg Prod.fst equal).symm, (congrArg Prod.snd equal).symm⟩

theorem decimal_append_injective {first second : Int} {rest tail : List Char}
    (ends : Json.NoDigit rest) (ends' : Json.NoDigit tail)
    (same : (Text.decimal first).toList ++ rest = (Text.decimal second).toList ++ tail) :
    first = second ∧ rest = tail := by
  have read := Json.readToken_append (Json.spellsToken_decimal first) ends
  rw [same, Json.readToken_append (Json.spellsToken_decimal second) ends'] at read
  have equal := Option.some.inj read
  exact ⟨(Json.Token.int.inj (congrArg Prod.fst equal)).symm, (congrArg Prod.snd equal).symm⟩

def fieldText (indent : Nat) (field : String × Document) : List Char :=
  if isSimpleKey field.1.toList then
    keyText field.1.toList ++
      ':' :: afterKey indent (indent + (keyText field.1.toList).length + 1) field.2
  else
    '?' :: ' ' :: scalar ⟨indent + 2, true⟩ (indent + 2) field.1.toList ++ newLine indent ++
      ':' :: afterIndicator indent field.2

theorem itemTexts_eq_map (indent : Nat) (items : List Document) :
    itemTexts indent items = items.map fun item => '-' :: afterIndicator indent item := by
  induction items with
  | nil => rfl
  | cons item rest ih => exact congrArg (('-' :: afterIndicator indent item) :: ·) ih

theorem fieldTexts_eq_map (indent : Nat) (fields : List (String × Document)) :
    fieldTexts indent fields = fields.map (fieldText indent) := by
  induction fields with
  | nil => rfl
  | cons field rest ih => exact congrArg (fieldText indent field :: ·) ih

theorem append_intercalate (separator line : List Char) (lines : List (List Char)) :
    separator ++ separator.intercalate (line :: lines) =
      (line :: lines).flatMap (separator ++ ·) := by
  induction lines generalizing line with
  | nil => rw [List.intercalate_singleton, List.flatMap_singleton]
  | cons next lines ih =>
      rw [List.intercalate_cons_cons, List.append_assoc, ih]
      exact (List.append_assoc separator line _).symm

def itemLines (indent : Nat) (items : List Document) : List Char :=
  items.flatMap fun item => newLine indent ++ '-' :: afterIndicator indent item

def fieldLines (indent : Nat) (fields : List (String × Document)) : List Char :=
  fields.flatMap fun field => newLine indent ++ fieldText indent field

theorem itemLines_cons (indent : Nat) (item : Document) (items : List Document)
    (rest : List Char) :
    itemLines indent (item :: items) ++ rest =
      newLine indent ++
        '-' :: (afterIndicator indent item ++ (itemLines indent items ++ rest)) := by
  rw [itemLines, List.flatMap_cons, List.append_assoc, List.append_assoc]
  rfl

theorem fieldLines_cons (indent : Nat) (field : String × Document)
    (fields : List (String × Document)) (rest : List Char) :
    fieldLines indent (field :: fields) ++ rest =
      newLine indent ++ (fieldText indent field ++ (fieldLines indent fields ++ rest)) := by
  rw [fieldLines, List.flatMap_cons, List.append_assoc, List.append_assoc]
  rfl

theorem newLine_append_itemTexts (indent : Nat) (item : Document) (rest : List Document) :
    newLine indent ++ (newLine indent).intercalate (itemTexts indent (item :: rest)) =
      itemLines indent (item :: rest) := by
  rw [itemTexts_eq_map, List.map_cons, append_intercalate, ← List.map_cons
    (f := fun item => '-' :: afterIndicator indent item), List.flatMap_map, itemLines]

theorem newLine_append_fieldTexts (indent : Nat) (field : String × Document)
    (rest : List (String × Document)) :
    newLine indent ++ (newLine indent).intercalate (fieldTexts indent (field :: rest)) =
      fieldLines indent (field :: rest) := by
  rw [fieldTexts_eq_map, List.map_cons, append_intercalate, ← List.map_cons, List.flatMap_map,
    fieldLines]

theorem afterKey_list (indent column : Nat) (item : Document) (rest : List Document) :
    afterKey indent column (.list (item :: rest)) = itemLines indent (item :: rest) :=
  newLine_append_itemTexts indent item rest

theorem afterKey_map (indent column : Nat) (field : String × Document)
    (rest : List (String × Document)) :
    afterKey indent column (.map (field :: rest)) = fieldLines (indent + 2) (field :: rest) :=
  newLine_append_fieldTexts (indent + 2) field rest

theorem afterIndicator_eq_cons (indent : Nat) (document : Document) :
    ∃ more, afterIndicator indent document = ' ' :: more := by
  match document with
  | .null | .bool true | .bool false | .int _ | .text _ => exact ⟨_, rfl⟩
  | .list [] | .map [] | .list (_ :: _) | .map (_ :: _) => exact ⟨_, rfl⟩

/-- No key is indented by itself or looks like an item. -/
theorem scalar_flush (folding : Folding) (column : Nat) (text rest : List Char) :
    ¬ [' '] <+: scalar folding column text ++ rest ∧
      ¬ ['-', ' '] <+: scalar folding column text ++ rest := by
  unfold scalar
  split
  · rename_i style
    obtain ⟨c, more, rfl, noSpace, -, noItem⟩ := exists_cons_of_isPlain (isPlain_of_styleOf style)
    rw [plainFrom_cons noSpace, List.cons_append]
    constructor
    · intro space
      exact noSpace (List.cons_prefix_cons.mp space).1.symm
    · intro item
      obtain ⟨dash, space⟩ := List.cons_prefix_cons.mp item
      cases more with
      | nil => exact noItem ⟨dash.symm, rfl⟩
      | cons d more =>
          have noSpace : d ≠ ' ' := by
            rintro rfl
            exact noItem ⟨dash.symm, rfl⟩
          rw [plainFrom_cons noSpace] at space
          exact noSpace (List.cons_prefix_cons.mp space).1.symm
  · simp
  · simp

theorem fieldText_flush (indent : Nat) (field : String × Document) (rest : List Char) :
    ¬ [' '] <+: fieldText indent field ++ rest ∧
      ¬ ['-', ' '] <+: fieldText indent field ++ rest := by
  unfold fieldText
  split
  · rw [List.append_assoc, keyText]
    exact scalar_flush _ _ _ _
  · simp

theorem closes_fieldLines {indent : Nat} {fields : List (String × Document)} {rest : List Char}
    (closes : Closes indent rest) : Closes indent (fieldLines indent fields ++ rest) := by
  cases fields with
  | nil => exact closes
  | cons field fields =>
      rw [fieldLines_cons]
      obtain ⟨flush, noItem⟩ := fieldText_flush indent field (fieldLines indent fields ++ rest)
      refine ⟨endsText_newLine flush, ?_⟩
      rw [List.prefix_append_right_inj]
      exact noItem

theorem closes_itemLines {indent : Nat} {items : List Document} {rest : List Char}
    (closes : Closes indent rest) : Closes (indent + 1) (itemLines indent items ++ rest) := by
  cases items with
  | nil => exact closes.succ
  | cons item items =>
      rw [itemLines_cons]
      exact (endsText_newLine (by simp)).closes

theorem not_closes_itemLines (indent : Nat) (item : Document) (items : List Document)
    (rest : List Char) : ¬ Closes indent (itemLines indent (item :: items) ++ rest) := by
  intro closes
  apply closes.noItem
  obtain ⟨behind, spaced⟩ := afterIndicator_eq_cons indent item
  rw [itemLines_cons, List.prefix_append_right_inj, spaced]
  exact ⟨_, rfl⟩

/-- Two documents are told apart by what is written for them, whatever follows. -/
structure ToldApart (first second : Document) : Prop where
  afterKey : ∀ {indent column : Nat} {rest tail : List Char}, Closes indent rest →
    Closes indent tail →
      afterKey indent column first ++ rest = afterKey indent column second ++ tail →
        first = second ∧ rest = tail
  afterIndicator : ∀ {indent : Nat} {rest tail : List Char}, Closes (indent + 1) rest →
    Closes (indent + 1) tail →
      afterIndicator indent first ++ rest = afterIndicator indent second ++ tail →
        first = second ∧ rest = tail

theorem itemLines_append_injective {indent : Nat} {items others : List Document}
    {rest tail : List Char} (apart : ∀ item ∈ items, ∀ other ∈ others, ToldApart item other)
    (closes : Closes indent rest) (closes' : Closes indent tail)
    (same : itemLines indent items ++ rest = itemLines indent others ++ tail) :
    items = others ∧ rest = tail := by
  induction items generalizing others with
  | nil =>
      cases others with
      | nil => exact ⟨rfl, same⟩
      | cons other others =>
          -- what closes a list is not one more item of it
          have ended : rest = itemLines indent (other :: others) ++ tail := same
          rw [ended] at closes
          exact absurd closes (not_closes_itemLines indent other others tail)
  | cons item items ih =>
      cases others with
      | nil =>
          have ended : itemLines indent (item :: items) ++ rest = tail := same
          rw [← ended] at closes'
          exact absurd closes' (not_closes_itemLines indent item items rest)
      | cons other others =>
          rw [itemLines_cons, itemLines_cons] at same
          have behind := List.tail_eq_of_cons_eq (List.append_cancel_left same)
          have first := apart item List.mem_cons_self other List.mem_cons_self
          obtain ⟨rfl, lines⟩ :=
            first.afterIndicator (closes_itemLines closes) (closes_itemLines closes') behind
          have later : ∀ item ∈ items, ∀ other ∈ others, ToldApart item other :=
            fun item member other among =>
              apart item (List.mem_cons_of_mem _ member) other (List.mem_cons_of_mem _ among)
          obtain ⟨rfl, ended⟩ := ih later lines
          exact ⟨rfl, ended⟩

theorem ToldApart.fieldText {first second : Document} (apart : ToldApart first second)
    {indent : Nat} {key : String} {rest tail : List Char} (closes : Closes indent rest)
    (closes' : Closes indent tail)
    (same : fieldText indent (key, first) ++ rest = fieldText indent (key, second) ++ tail) :
    first = second ∧ rest = tail := by
  unfold Yaml.fieldText at same
  split at same
  · rw [List.append_assoc, List.append_assoc] at same
    have value := List.tail_eq_of_cons_eq (List.append_cancel_left same)
    exact apart.afterKey closes closes' value
  · rw [List.append_assoc _ (':' :: _) rest, List.append_assoc _ (':' :: _) tail] at same
    have value := List.tail_eq_of_cons_eq (List.append_cancel_left same)
    exact apart.afterIndicator closes.succ closes'.succ value

/-- The fields of two maps with the same keys. An entry has the value in the one and the value in
the other. -/
theorem fieldLines_append_injective {indent : Nat} {entries : List (String × Document × Document)}
    {rest tail : List Char} (apart : ∀ entry ∈ entries, ToldApart entry.2.1 entry.2.2)
    (closes : Closes indent rest) (closes' : Closes indent tail)
    (same : fieldLines indent (entries.map fun entry => (entry.1, entry.2.1)) ++ rest =
      fieldLines indent (entries.map fun entry => (entry.1, entry.2.2)) ++ tail) :
    (∀ entry ∈ entries, entry.2.1 = entry.2.2) ∧ rest = tail := by
  induction entries with
  | nil => exact ⟨List.forall_mem_nil _, same⟩
  | cons entry entries ih =>
      obtain ⟨first, others⟩ := List.forall_mem_cons.mp apart
      rw [List.map_cons, List.map_cons, fieldLines_cons, fieldLines_cons] at same
      obtain ⟨value, lines⟩ := first.fieldText (closes_fieldLines closes)
        (closes_fieldLines closes') (List.append_cancel_left same)
      obtain ⟨values, ended⟩ := ih others lines
      exact ⟨List.forall_mem_cons.mpr ⟨value, values⟩, ended⟩

/-- Documents of texts and integers that differ in these and in the lengths of their lists only. -/
inductive SameShape : Document → Document → Prop
  | int (first second : Int) : SameShape (.int first) (.int second)
  | text (first second : String) : SameShape (.text first) (.text second)
  | list {items others : List Document}
    (members : ∀ item ∈ items, ∀ other ∈ others, SameShape item other) :
    SameShape (.list items) (.list others)
  | map {entries : List (String × Document × Document)}
    (values : ∀ entry ∈ entries, SameShape entry.2.1 entry.2.2) :
    SameShape (.map (entries.map fun entry => (entry.1, entry.2.1)))
      (.map (entries.map fun entry => (entry.1, entry.2.2)))

theorem toldApart_int (first second : Int) : ToldApart (.int first) (.int second) where
  afterKey closes closes' same := by
    obtain ⟨rfl, ended⟩ := decimal_append_injective closes.noDigit closes'.noDigit
      (List.tail_eq_of_cons_eq same)
    exact ⟨rfl, ended⟩
  afterIndicator closes closes' same := by
    obtain ⟨rfl, ended⟩ := decimal_append_injective closes.noDigit closes'.noDigit
      (List.tail_eq_of_cons_eq same)
    exact ⟨rfl, ended⟩

theorem toldApart_text (first second : String) : ToldApart (.text first) (.text second) where
  afterKey closes closes' same := by
    obtain ⟨equal, ended⟩ := scalar_append_injective (Nat.succ_pos _) closes.succ.endsText
      closes'.succ.endsText (List.tail_eq_of_cons_eq same)
    exact ⟨congrArg _ (String.toList_inj.mp equal), ended⟩
  afterIndicator closes closes' same := by
    obtain ⟨equal, ended⟩ := scalar_append_injective (Nat.succ_pos _) closes.endsText
      closes'.endsText (List.tail_eq_of_cons_eq same)
    exact ⟨congrArg _ (String.toList_inj.mp equal), ended⟩

theorem newLine_append_eq (indent : Nat) {text other rest tail : List Char}
    (same : text ++ rest = other ++ tail) :
    newLine indent ++ text ++ rest = newLine indent ++ other ++ tail := by
  rw [List.append_assoc, List.append_assoc, same]

theorem empty_ne_itemLines {indent : Nat} {item : Document} {items : List Document}
    {rest tail : List Char} :
    newLine indent ++ "[]".toList ++ rest ≠ itemLines indent (item :: items) ++ tail := by
  intro same
  rw [itemLines_cons, List.append_assoc] at same
  exact absurd (List.append_cancel_left same) (by simp)

theorem toldApart_list {items others : List Document}
    (apart : ∀ item ∈ items, ∀ other ∈ others, ToldApart item other) :
    ToldApart (.list items) (.list others) where
  -- an empty list is a pair of brackets, and any other one has lines of its own
  afterKey {indent column rest tail} closes closes' same := by
    cases items with
    | nil =>
        cases others with
        | nil => exact ⟨rfl, List.append_cancel_left same⟩
        | cons other others => exact absurd (List.head_eq_of_cons_eq same) (by decide)
    | cons item items =>
        cases others with
        | nil => exact absurd (List.head_eq_of_cons_eq same) (by decide)
        | cons other others =>
            rw [afterKey_list, afterKey_list] at same
            obtain ⟨equal, ended⟩ := itemLines_append_injective apart closes closes' same
            exact ⟨congrArg _ equal, ended⟩
  afterIndicator {indent rest tail} closes closes' same := by
    cases items with
    | nil =>
        cases others with
        | nil => exact ⟨rfl, List.append_cancel_left same⟩
        | cons other others =>
            have behind : "[]".toList ++ rest = _ ++ tail := List.tail_eq_of_cons_eq same
            have lines := newLine_append_eq (indent + 2) behind
            rw [newLine_append_itemTexts] at lines
            exact absurd lines empty_ne_itemLines
    | cons item items =>
        cases others with
        | nil =>
            have behind : _ ++ rest = "[]".toList ++ tail := List.tail_eq_of_cons_eq same
            have lines := newLine_append_eq (indent + 2) behind
            rw [newLine_append_itemTexts] at lines
            exact absurd lines.symm empty_ne_itemLines
        | cons other others =>
            have lines := newLine_append_eq (indent + 2) (List.tail_eq_of_cons_eq same)
            rw [newLine_append_itemTexts, newLine_append_itemTexts] at lines
            obtain ⟨equal, ended⟩ :=
              itemLines_append_injective apart closes.succ closes'.succ lines
            exact ⟨congrArg _ equal, ended⟩

theorem map_eq_of_values {entries : List (String × Document × Document)}
    (values : ∀ entry ∈ entries, entry.2.1 = entry.2.2) :
    Document.map (entries.map fun entry => (entry.1, entry.2.1)) =
      .map (entries.map fun entry => (entry.1, entry.2.2)) := by
  rw [List.map_congr_left fun entry member => by rw [values entry member]]

theorem toldApart_map {entries : List (String × Document × Document)}
    (apart : ∀ entry ∈ entries, ToldApart entry.2.1 entry.2.2) :
    ToldApart (.map (entries.map fun entry => (entry.1, entry.2.1)))
      (.map (entries.map fun entry => (entry.1, entry.2.2))) where
  afterKey {indent column rest tail} closes closes' same := by
    cases entries with
    | nil => exact ⟨rfl, List.append_cancel_left same⟩
    | cons entry entries =>
        rw [List.map_cons, List.map_cons, afterKey_map, afterKey_map] at same
        obtain ⟨values, ended⟩ :=
          fieldLines_append_injective apart closes.succ.succ closes'.succ.succ same
        exact ⟨map_eq_of_values values, ended⟩
  afterIndicator {indent rest tail} closes closes' same := by
    cases entries with
    | nil => exact ⟨rfl, List.append_cancel_left same⟩
    | cons entry entries =>
        have lines := newLine_append_eq (indent + 2) (List.tail_eq_of_cons_eq same)
        rw [newLine_append_fieldTexts, newLine_append_fieldTexts] at lines
        obtain ⟨values, ended⟩ :=
          fieldLines_append_injective apart closes.succ closes'.succ lines
        exact ⟨map_eq_of_values values, ended⟩

/-- Documents of one shape are told apart. -/
theorem SameShape.toldApart {first second : Document} (shape : SameShape first second) :
    ToldApart first second := by
  induction shape with
  | int first second => exact toldApart_int first second
  | text first second => exact toldApart_text first second
  | list members ih => exact toldApart_list ih
  | map values ih => exact toldApart_map ih

theorem newLine_append_render (field : String × Document) (rest : List (String × Document)) :
    newLine 0 ++ render (.map (field :: rest)) = fieldLines 0 (field :: rest) ++ ['\n'] := by
  rw [← newLine_append_fieldTexts, List.append_assoc]
  rfl

/-- Maps of one shape with one text are equal. -/
theorem map_eq_of_render_eq {entries : List (String × Document × Document)}
    (values : ∀ entry ∈ entries, SameShape entry.2.1 entry.2.2)
    (same : render (.map (entries.map fun entry => (entry.1, entry.2.1))) =
      render (.map (entries.map fun entry => (entry.1, entry.2.2)))) :
    Document.map (entries.map fun entry => (entry.1, entry.2.1)) =
      .map (entries.map fun entry => (entry.1, entry.2.2)) := by
  cases entries with
  | nil => rfl
  | cons entry entries =>
      have lines := congrArg (newLine 0 ++ ·) same
      simp only [List.map_cons, newLine_append_render] at lines
      have apart : ∀ member ∈ entry :: entries, ToldApart member.2.1 member.2.2 :=
        fun member among => (values member among).toldApart
      obtain ⟨equal, -⟩ :=
        fieldLines_append_injective apart (closes_end 0) (closes_end 0) lines
      exact map_eq_of_values equal

end OverflowScan.Yaml
