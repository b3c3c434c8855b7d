import OverflowScan.Proofs.Document
import OverflowScan.Proofs.Json.Grammar

set_option autoImplicit false

namespace OverflowScan.Json

def readUnit (text : List Char) : Option (Nat × List Char) :=
  if (text.take 4).length = 4 then (Text.hexNumber? (text.take 4)).map (·, text.drop 4) else none

def readLow (high : Nat) : List Char → Option (Char × List Char)
  | '\\' :: 'u' :: text =>
    match readUnit text with
    | some (low, rest) => if IsLow low then some (Char.ofNat (joined high low), rest) else none
    | none => none
  | _ => none

def readUnits (text : List Char) : Option (Char × List Char) :=
  match readUnit text with
  | some (unit, rest) =>
    if IsHigh unit then readLow unit rest
    else if IsLow unit then none
    else some (Char.ofNat unit, rest)
  | none => none

def readEscape : List Char → Option (Char × List Char)
  | [] => none
  | letter :: rest =>
    if letter = 'u' then readUnits rest else (shortEscapes.lookup letter).map (·, rest)

def readChar : List Char → Option (Char × List Char)
  | [] => none
  | first :: rest =>
    if first = '\\' then readEscape rest
    else if IsPlain first then some (first, rest)
    else none

def readText (text : List Char) : Option (List Char × List Char) :=
  if text.head? = some '"' then some ([], text.tail)
  else
    match readChar text with
    | none => none
    | some (c, rest) =>
      -- A spelling is never empty: the test holds whenever a character was read.
      if rest.length < text.length then (readText rest).map fun read => (c :: read.1, read.2)
      else none
termination_by text.length

def readNatural (text : List Char) : Option (Nat × List Char) :=
  if IsNumeral (text.takeWhile Char.isDigit) then
    some (numeralValue (text.takeWhile Char.isDigit), text.dropWhile Char.isDigit)
  else none

def readFixed (text : List Char) : Option (Token × List Char) :=
  fixedWords.findSome? fun entry =>
    if entry.1.isPrefixOf text then some (entry.2, text.drop entry.1.length) else none

def readToken : List Char → Option (Token × List Char)
  | [] => none
  | first :: rest =>
    if first = '"' then (readText rest).map fun read => (.text (String.ofList read.1), read.2)
    else if first = '-' then (readNatural rest).map fun read => (.int (-(read.1 : Int)), read.2)
    else if first.isDigit then
      (readNatural (first :: rest)).map fun read => (.int read.1, read.2)
    else readFixed (first :: rest)

def lex (text : List Char) : Option (List Token) :=
  if text.dropWhile isSpace = [] then some []
  else
    match readToken (text.dropWhile isSpace) with
    | none => none
    | some (token, rest) =>
      if rest.length < text.length then (lex rest).map (token :: ·) else none
termination_by text.length

/-- A list or a map under way, with its members so far, the last one first. -/
inductive Frame where
  | items (read : List Document)
  | field (key : String) (read : List (String × Document))

/-- Where the machine stands between two tokens: a value is due, a key is due, a colon is due after
a key, or a value is complete. -/
inductive State where
  | value (stack : List Frame)
  | key (read : List (String × Document)) (stack : List Frame)
  | colon (key : String) (read : List (String × Document)) (stack : List Frame)
  | complete (document : Document) (stack : List Frame)

/-- A token where a value is due. A list that has no item yet may also end here. -/
def stepValue (stack : List Frame) : Token → Option State
  | .openList => some (.value (.items [] :: stack))
  | .closeList =>
    match stack with
    | .items [] :: below => some (.complete (.list []) below)
    | _ => none
  | .openMap => some (.key [] stack)
  | .null => some (.complete .null stack)
  | .bool value => some (.complete (.bool value) stack)
  | .int value => some (.complete (.int value) stack)
  | .text value => some (.complete (.text value) stack)
  | _ => none

def stepKey (read : List (String × Document)) (stack : List Frame) : Token → Option State
  | .text key => some (.colon key read stack)
  | .closeMap => if read.isEmpty then some (.complete (.map []) stack) else none
  | _ => none

def stepMember (document : Document) (stack : List Frame) : Frame → Token → Option State
  | .items read, .comma => some (.value (.items (document :: read) :: stack))
  | .items read, .closeList => some (.complete (.list (document :: read).reverse) stack)
  | .field key read, .comma => some (.key ((key, document) :: read) stack)
  | .field key read, .closeMap => some (.complete (.map ((key, document) :: read).reverse) stack)
  | _, _ => none

def step : State → Token → Option State
  | .value stack, token => stepValue stack token
  | .key read stack, token => stepKey read stack token
  | .colon key read stack, .colon => some (.value (.field key read :: stack))
  | .complete document (frame :: stack), token => stepMember document stack frame token
  | _, _ => none

def State.document? : State → Option Document
  | .complete document [] => some document
  | _ => none

/-- The document of a text. -/
def read? (text : List Char) : Option Document := do
  let tokens ← lex text
  let last ← tokens.foldlM step (.value [])
  last.document?

theorem readUnit_append {unit : Nat} {digits : List Char} (spelled : SpellsUnit unit digits)
    (rest : List Char) : readUnit (digits ++ rest) = some (unit, rest) := by
  obtain ⟨four, number⟩ := spelled
  have front : (digits ++ rest).take 4 = digits := by rw [← four, List.take_left]
  have back : (digits ++ rest).drop 4 = rest := by rw [← four, List.drop_left]
  rw [readUnit, front, back, if_pos four, number, Option.map_some]

theorem readUnits_unit {c : Char} {digits : List Char} (spelled : SpellsUnit c.toNat digits)
    (rest : List Char) : readUnits (digits ++ rest) = some (c, rest) := by
  have point := toNat_char c
  have noHigh : ¬ IsHigh c.toNat := by
    unfold IsHigh
    omega
  have noLow : ¬ IsLow c.toNat := by
    unfold IsLow
    omega
  simp only [readUnits, readUnit_append spelled, if_neg noHigh, if_neg noLow, Char.ofNat_toNat]

theorem readUnits_pair {c : Char} {high low : Nat} {first second : List Char}
    (isHigh : IsHigh high) (isLow : IsLow low) (point : c.toNat = joined high low)
    (spelledHigh : SpellsUnit high first) (spelledLow : SpellsUnit low second)
    (rest : List Char) :
    readUnits (first ++ '\\' :: 'u' :: (second ++ rest)) = some (c, rest) := by
  simp only [readUnits, readUnit_append spelledHigh, if_pos isHigh, readLow,
    readUnit_append spelledLow, if_pos isLow, ← point, Char.ofNat_toNat]

theorem lookup_shortEscapes : ∀ entry ∈ shortEscapes,
    entry.1 ≠ 'u' ∧ shortEscapes.lookup entry.1 = some entry.2 := by
  decide

theorem readChar_append {c : Char} {word : List Char} (spelled : SpellsChar c word)
    (rest : List Char) : readChar (word ++ rest) = some (c, rest) := by
  cases spelled with
  | plain itself =>
    simp only [List.singleton_append, readChar, if_neg itself.2.2, if_pos itself]
  | short known =>
    obtain ⟨notUnit, found⟩ := lookup_shortEscapes _ known
    simp only [List.cons_append, List.nil_append, readChar, readEscape, if_neg notUnit, found,
      Option.map_some, if_true]
  | unit spelled =>
    simp only [List.cons_append, readChar, readEscape, if_true]
    exact readUnits_unit spelled rest
  | pair isHigh isLow point spelledHigh spelledLow =>
    simp only [List.cons_append, List.append_assoc, readChar, readEscape, if_true]
    exact readUnits_pair isHigh isLow point spelledHigh spelledLow rest

/-- No spelling of a character starts with a quote, and none is empty. -/
theorem SpellsChar.head {c : Char} {word : List Char} (spelled : SpellsChar c word) :
    ∃ first more, word = first :: more ∧ first ≠ '"' := by
  cases spelled with
  | plain itself => exact ⟨_, _, rfl, itself.2.1⟩
  | short known => exact ⟨_, _, rfl, by decide⟩
  | unit spelled => exact ⟨_, _, rfl, by decide⟩
  | pair isHigh isLow point spelledHigh spelledLow => exact ⟨_, _, rfl, by decide⟩

theorem readText_append {chars spelling : List Char} (spelled : SpellsText chars spelling)
    (rest : List Char) : readText (spelling ++ '"' :: rest) = some (chars, rest) := by
  induction spelled with
  | nil => rw [List.nil_append, readText, List.head?_cons, if_pos rfl, List.tail_cons]
  | @cons c chars word spelling first _ ih =>
    obtain ⟨start, more, shape, noQuote⟩ := first.head
    have within : (spelling ++ '"' :: rest).length <
        (word ++ (spelling ++ '"' :: rest)).length := by
      rw [shape]
      simp only [List.length_append, List.length_cons]
      omega
    have goesOn : (word ++ (spelling ++ '"' :: rest)).head? ≠ some '"' := by
      rw [shape]
      simpa using noQuote
    rw [List.append_assoc, readText, if_neg goesOn, readChar_append first]
    simp only [if_pos within, ih, Option.map_some]

theorem takeWhile_digits {digits rest : List Char} (all : ∀ c ∈ digits, c.isDigit)
    (ends : NoDigit rest) :
    (digits ++ rest).takeWhile Char.isDigit = digits ∧
      (digits ++ rest).dropWhile Char.isDigit = rest := by
  rw [List.takeWhile_append_of_pos all, List.dropWhile_append_of_pos all]
  cases rest with
  | nil => simp
  | cons c more => simp [ends c rfl]

theorem readNatural_append {digits rest : List Char} (numeral : IsNumeral digits)
    (ends : NoDigit rest) : readNatural (digits ++ rest) = some (numeralValue digits, rest) := by
  obtain ⟨front, back⟩ := takeWhile_digits numeral.2.1 ends
  rw [readNatural, front, back, if_pos numeral]

theorem IsNumeral.head {digits : List Char} (numeral : IsNumeral digits) :
    ∃ first more, digits = first :: more ∧ first.isDigit = true := by
  obtain ⟨nonempty, all, -⟩ := numeral
  cases digits with
  | nil => exact absurd rfl nonempty
  | cons first more => exact ⟨first, more, rfl, all first List.mem_cons_self⟩

theorem ne_of_isDigit {c mark : Char} (digit : c.isDigit = true) (other : mark.isDigit = false) :
    c ≠ mark := by
  intro same
  rw [same, other] at digit
  cases digit

theorem readToken_fixed {token : Token} {word : List Char} (known : (word, token) ∈ fixedWords)
    (rest : List Char) : readToken (word ++ rest) = some (token, rest) := by
  have all : ∀ entry ∈ fixedWords, readToken (entry.1 ++ rest) = some (entry.2, rest) := by
    simp [fixedWords, readToken, readFixed]
  exact all _ known

/-- A token is read off the front of a text that goes on after it. -/
theorem readToken_append {token : Token} {word rest : List Char} (spelled : SpellsToken token word)
    (ends : Ends token rest) : readToken (word ++ rest) = some (token, rest) := by
  cases spelled with
  | fixed known => exact readToken_fixed known rest
  | text spelled =>
    simp only [List.cons_append, List.append_assoc, List.nil_append, readToken, if_true,
      readText_append spelled, Option.map_some, String.ofList_toList]
  | natural numeral =>
    have read := readNatural_append numeral ends
    obtain ⟨first, more, shape, digit⟩ := numeral.head
    rw [shape, List.cons_append] at read ⊢
    have noQuote : first ≠ '"' := ne_of_isDigit digit rfl
    have noSign : first ≠ '-' := ne_of_isDigit digit rfl
    simp only [readToken, if_neg noQuote, if_neg noSign, if_pos digit, read, Option.map_some]
  | negative numeral =>
    simp only [List.cons_append, readToken, readNatural_append numeral ends, Option.map_some]
    rfl

theorem isSpace_of_isDigit {c : Char} (digit : c.isDigit = true) : isSpace c = false := by
  unfold isSpace
  simp only [Bool.or_eq_false_iff, decide_eq_false_iff_not]
  refine ⟨⟨⟨?_, ?_⟩, ?_⟩, ?_⟩ <;> exact ne_of_isDigit digit rfl

theorem fixedWords_head : ∀ entry ∈ fixedWords,
    ∃ first more, entry.1 = first :: more ∧ isSpace first = false := by
  simp [fixedWords, isSpace]

theorem SpellsToken.head {token : Token} {word : List Char} (spelled : SpellsToken token word) :
    ∃ first more, word = first :: more ∧ isSpace first = false := by
  cases spelled with
  | fixed known => exact fixedWords_head _ known
  | text spelled => exact ⟨_, _, rfl, by decide⟩
  | natural numeral =>
    obtain ⟨first, more, shape, digit⟩ := numeral.head
    exact ⟨first, more, shape, isSpace_of_isDigit digit⟩
  | negative numeral => exact ⟨_, _, rfl, by decide⟩

theorem lex_of_written {read : List Token} {text : List Char} (written : Written read text) :
    lex text = some read := by
  induction written with
  | nil blank =>
    have skipped : (_ ++ []).dropWhile isSpace = [] := List.dropWhile_append_of_pos blank
    rw [List.append_nil] at skipped
    rw [lex, if_pos skipped]
  | @cons token following blanks word rest blank spelled ends _ ih =>
    obtain ⟨first, more, shape, noSpace⟩ := spelled.head
    have skipped : (blanks ++ (word ++ rest)).dropWhile isSpace = word ++ rest := by
      rw [List.dropWhile_append_of_pos blank, shape, List.cons_append,
        List.dropWhile_cons_of_neg (by simp [noSpace])]
    have goesOn : word ++ rest ≠ [] := by simp [shape]
    have within : rest.length < (blanks ++ (word ++ rest)).length := by
      rw [shape]
      simp only [List.length_append, List.length_cons]
      omega
    rw [lex, skipped, if_neg goesOn, readToken_append spelled ends]
    simp only [if_pos within, ih, Option.map_some]

/-- Members between commas, up to the closing token. Each member takes the machine from a state in
which a member is due to one that holds it, whatever members were read before. -/
theorem run_members {α : Type} (due final : List α → State) (held : α → List α → State)
    (closing : Token) (spell : α → List Token)
    (comma : ∀ member read, step (held member read) .comma = some (due (member :: read)))
    (close : ∀ member read, step (held member read) closing = some (final (member :: read)))
    (first : α) (rest : List α)
    (reads : ∀ member ∈ first :: rest, ∀ read,
      (spell member).foldlM step (due read) = some (held member read)) (read : List α) :
    ([Token.comma].intercalate ((first :: rest).map spell) ++ [closing]).foldlM step (due read) =
      some (final ((first :: rest).reverse ++ read)) := by
  -- On the members still to come, since a comma leads from the first of them to the next state.
  induction rest generalizing first read with
  | nil =>
    simp only [List.map_cons, List.map_nil, List.intercalate_singleton]
    rw [List.foldlM_append, reads first List.mem_cons_self]
    exact congrArg (· >>= pure) (close first read)
  | cons second rest ih =>
    have later := ih second (fun member inside => reads member (List.mem_cons_of_mem _ inside))
      (first :: read)
    simp only [List.map_cons, List.intercalate_cons_cons] at later ⊢
    rw [List.append_assoc, List.append_assoc, List.foldlM_append, reads first List.mem_cons_self]
    show List.foldlM step (held first read) (Token.comma :: _) = _
    rw [List.foldlM_cons, comma, List.reverse_cons, List.append_assoc]
    exact later

/-- The tokens of a document take the machine to that document. -/
theorem run_tokens (document : Document) (stack : List Frame) :
    (tokens document).foldlM step (.value stack) = some (.complete document stack) := by
  induction document generalizing stack with
  | null => rw [tokens]; rfl
  | bool value => rw [tokens]; rfl
  | int value => rw [tokens]; rfl
  | text value => rw [tokens]; rfl
  | list items ih =>
    rw [tokens, itemTokens_eq_map]
    cases items with
    | nil => rfl
    | cons first rest =>
      have members := run_members (fun read => .value (.items read :: stack))
        (fun read => .complete (.list read.reverse) stack)
        (fun item read => .complete item (.items read :: stack)) .closeList tokens
        (fun _ _ => rfl) (fun _ _ => rfl) first rest
        (fun item inside read => ih item inside (.items read :: stack)) []
      rw [List.append_nil, List.reverse_reverse] at members
      exact members
  | map fields ih =>
    rw [tokens, fieldTokens_eq_map]
    cases fields with
    | nil => rfl
    | cons first rest =>
      have members := run_members (fun read => .key read stack)
        (fun read => .complete (.map read.reverse) stack)
        (fun field read => .complete field.2 (.field field.1 read :: stack)) .closeMap
        (fun field => .text field.1 :: .colon :: tokens field.2)
        (fun _ _ => rfl) (fun _ _ => rfl) first rest
        (fun field inside read => ih field inside (.field field.1 read :: stack)) []
      rw [List.append_nil, List.reverse_reverse] at members
      exact members

/-- The reader finds the document of every spelling. -/
theorem read?_of_denotes {text : List Char} {document : Document}
    (denotes : Denotes text document) : read? text = some document := by
  have lexed := lex_of_written denotes
  have run := run_tokens document []
  simp only [read?, lexed, Option.bind_eq_bind, Option.bind_some, run, State.document?]

theorem Denotes.unique {text : List Char} {first second : Document}
    (denotesFirst : Denotes text first) (denotesSecond : Denotes text second) : first = second := by
  have same := (read?_of_denotes denotesFirst).symm.trans (read?_of_denotes denotesSecond)
  exact Option.some.inj same

end OverflowScan.Json
