import CodeAudit.Proofs.Report.JsonGrammar

/-!
A reader of JSON texts. It finds the value of every text of the grammar, so that no text spells two
values.
-/

namespace CodeAudit
namespace JsonText

/-- A reader takes its part from the front of a text and leaves the rest. -/
abbrev Reader (Part : Type) := List Char → Option (Part × List Char)

def skipSpace (text : List Char) : List Char :=
  text.dropWhile isSpace

/-! ## Strings -/

def readLow (high : Nat) : Reader Char
  | '\\' :: 'u' :: first :: second :: third :: fourth :: rest => do
      let low ← hexCode? [first, second, third, fourth]
      let code ← joined? high low
      some (Char.ofNat code, rest)
  | _ => none

def readEscaped : Reader Char
  | 'u' :: first :: second :: third :: fourth :: rest => do
      let code ← hexCode? [first, second, third, fourth]
      if code.isValidChar then some (Char.ofNat code, rest) else readLow code rest
  | mark :: rest => (unmarked? mark).map fun character => (character, rest)
  | [] => none

def readLetter : Reader Char
  | [] => none
  | character :: rest =>
      if character = '\\' then readEscaped rest
      else if character.toNat < 0x20 then none
      else some (character, rest)

def readLetters : Nat → Reader (List Char)
  | 0, _ => none
  | _ + 1, '"' :: rest => some ([], rest)
  | count + 1, text => do
      let (character, rest) ← readLetter text
      let (others, after) ← readLetters count rest
      some (character :: others, after)

def readString : Reader String
  | '"' :: rest => (readLetters rest.length rest).map fun (letters, after) =>
      (String.ofList letters, after)
  | _ => none

/-! ## Values -/

def readNumber (text : List Char) : Option (JsonValue × List Char) :=
  let digits := text.takeWhile Char.isDigit
  if digits = [] ∨ (digits.head? = some '0' ∧ digits ≠ ['0']) then none
  else some (.number (Nat.ofDigitChars 10 digits 0), text.dropWhile Char.isDigit)

def readSeparated {Part : Type} (readPart : Reader Part) (close : Char) : Nat → Reader (List Part)
  | 0, _ => none
  | count + 1, text => do
      let (first, rest) ← readPart text
      match rest with
      | [] => none
      | next :: rest =>
          if next = ',' then
            let (others, after) ← readSeparated readPart close count rest
            some (first :: others, after)
          else if next = close then some ([first], rest)
          else none

def readBracketed {Part : Type} (readPart : Reader Part) (close : Char) : Reader (List Part) :=
  fun text =>
    match skipSpace text with
    | [] => none
    | next :: rest =>
        if next = close then some ([], rest)
        else readSeparated readPart close text.length text

def readElement (readPart : Reader JsonValue) : Reader JsonValue := fun text => do
  let (value, rest) ← readPart (skipSpace text)
  some (value, skipSpace rest)

def readMember (readPart : Reader JsonValue) : Reader (String × JsonValue) := fun text => do
  let (key, rest) ← readString (skipSpace text)
  match skipSpace rest with
  | ':' :: rest =>
      let (value, after) ← readElement readPart rest
      some ((key, value), after)
  | _ => none

def readValue : Nat → Reader JsonValue
  | 0, _ => none
  | depth + 1, '[' :: rest =>
      (readBracketed (readElement (readValue depth)) ']' rest).map fun (values, after) =>
        (.array values, after)
  | depth + 1, '\x7b' :: rest =>
      (readBracketed (readMember (readValue depth)) '\x7d' rest).map fun (members, after) =>
        (.object members, after)
  | _ + 1, '"' :: rest =>
      (readString ('"' :: rest)).map fun (value, after) => (.text value, after)
  | _ + 1, text => readNumber text

def read (text : String) : Option JsonValue :=
  match readElement (readValue (text.toList.length + 1)) text.toList with
  | some (value, []) => some value
  | _ => none

/-! ## Where a part stops -/

def Stops (class? : Char → Bool) (text : List Char) : Prop :=
  ∀ character ∈ text.head?, class? character = false

theorem stops_cons {class? : Char → Bool} {character : Char} {rest : List Char} :
    Stops class? (character :: rest) ↔ class? character = false := by
  simp [Stops]

theorem take_while_append_of_stops {class? : Char → Bool} {text rest : List Char}
    (all : ∀ character ∈ text, class? character = true) (stops : Stops class? rest) :
    (text ++ rest).takeWhile class? = text := by
  rw [List.takeWhile_append_of_pos all]
  cases rest with
  | nil => simp
  | cons character rest => simp [stops_cons.mp stops]

theorem drop_while_append_of_stops {class? : Char → Bool} {text rest : List Char}
    (all : ∀ character ∈ text, class? character = true) (stops : Stops class? rest) :
    (text ++ rest).dropWhile class? = rest := by
  rw [List.dropWhile_append_of_pos all]
  cases rest with
  | nil => simp
  | cons character rest => simp [stops_cons.mp stops]

theorem skip_space_append {blank rest : List Char} (space : Space blank)
    (stops : Stops isSpace rest) : skipSpace (blank ++ rest) = rest :=
  drop_while_append_of_stops space stops

theorem not_digit_of_is_space {character : Char} (space : isSpace character = true) :
    character.isDigit = false := by
  simp only [isSpace, Bool.or_eq_true, beq_iff_eq] at space
  rcases space with ((rfl | rfl) | rfl) | rfl <;> rfl

theorem not_space_of_is_digit {character : Char} (digit : character.isDigit = true) :
    isSpace character = false := by
  cases space : isSpace character with
  | false => rfl
  | true =>
      rw [not_digit_of_is_space space] at digit
      cases digit

theorem stops_digit_append {blank rest : List Char} (space : Space blank)
    (stops : Stops Char.isDigit rest) : Stops Char.isDigit (blank ++ rest) := by
  cases blank with
  | nil => exact stops
  | cons character blank =>
      apply stops_cons.mpr
      exact not_digit_of_is_space (space character (by simp))

/-- The text begins with a character that is no space and closes no bracket. -/
def Opens (text : List Char) : Prop :=
  ∃ first more, text = first :: more ∧ isSpace first = false ∧ first ≠ ']' ∧ first ≠ '\x7d'

def Begins (text : List Char) : Prop :=
  ∃ blank more, text = blank ++ more ∧ Space blank ∧ Opens more

theorem Opens.append {text : List Char} (opens : Opens text) (rest : List Char) :
    Opens (text ++ rest) := by
  obtain ⟨first, more, rfl, facts⟩ := opens
  exact ⟨first, more ++ rest, rfl, facts⟩

theorem Opens.stops {text : List Char} (opens : Opens text) : Stops isSpace text := by
  obtain ⟨first, more, rfl, noSpace, _⟩ := opens
  exact stops_cons.mpr noSpace

theorem Begins.append {text : List Char} (begins : Begins text) (rest : List Char) :
    Begins (text ++ rest) := by
  obtain ⟨blank, more, rfl, space, opens⟩ := begins
  exact ⟨blank, more ++ rest, List.append_assoc blank more rest, space, opens.append rest⟩

/-! ## Strings are read -/

theorem letter_begins {character : Char} {text : List Char} (letter : Letter character text) :
    ∃ first more, text = first :: more ∧ first ≠ '"' := by
  cases letter with
  | plain noControl noQuote noBackslash => exact ⟨character, [], rfl, noQuote⟩
  | marked marks => exact ⟨'\\', _, rfl, by decide⟩
  | coded codes => exact ⟨'\\', _, rfl, by decide⟩
  | halved highCodes lowCodes joins => exact ⟨'\\', _, rfl, by decide⟩

theorem read_letter_append {character : Char} {text : List Char} (letter : Letter character text)
    (rest : List Char) : readLetter (text ++ rest) = some (character, rest) := by
  cases letter with
  | plain noControl noQuote noBackslash =>
      simp [readLetter, noBackslash, Nat.not_lt.mpr noControl]
  | @marked mark marks =>
      have noCode : mark ≠ 'u' := by
        intro same
        rw [same] at marks
        cases marks
      simp [readLetter, readEscaped, noCode, marks]
  | coded codes =>
      have valid : character.toNat.isValidChar := character.valid
      simp [readLetter, readEscaped, codes, valid]
  | @halved _ _ _ _ _ _ _ _ high low highCodes lowCodes joins =>
      -- half a code is the code of no character
      have half : ¬ high.isValidChar := by
        unfold joined? at joins
        split at joins
        · next bounds =>
            unfold Nat.isValidChar
            omega
        · cases joins
      simp [readLetter, readEscaped, readLow, highCodes, lowCodes, joins, half]

theorem read_letters_step {count : Nat} {text : List Char} {character : Char}
    {others rest after : List Char} (noQuote : text.head? ≠ some '"')
    (first : readLetter text = some (character, rest))
    (more : readLetters count rest = some (others, after)) :
    readLetters (count + 1) text = some (character :: others, after) := by
  cases text with
  | nil => cases first
  | cons head tail =>
      have different : head ≠ '"' := by simpa using noQuote
      simp [readLetters, different, first, more]

theorem read_letters_append {value text : List Char} (letters : Letters value text)
    (rest : List Char) {count : Nat} (enough : text.length < count) :
    readLetters count (text ++ '"' :: rest) = some (value, rest) := by
  induction letters generalizing count with
  | nil =>
      cases count with
      | zero => cases enough
      | succ count => rfl
  | @cons character others text more letter letters ih =>
      obtain ⟨head, tail, starts, noQuote⟩ := letter_begins letter
      cases count with
      | zero => cases enough
      | succ count =>
          rw [List.append_assoc]
          apply read_letters_step
          · simpa [starts] using noQuote
          · exact read_letter_append letter _
          · apply ih
            simp only [starts, List.length_append, List.length_cons] at enough
            omega

theorem read_string_append {value : String} {text : List Char} (letters : Letters value.toList text)
    (rest : List Char) :
    readString ('"' :: text ++ '"' :: rest) = some (value, rest) := by
  have enough : text.length < (text ++ '"' :: rest).length := by
    simp only [List.length_append, List.length_cons]
    omega
  simp only [readString, List.cons_append]
  rw [read_letters_append letters rest enough]
  simp

/-! ## Numbers and brackets are read -/

theorem read_number_append {value : Nat} {text rest : List Char} (decimal : Decimal value text)
    (stops : Stops Char.isDigit rest) :
    readNumber (text ++ rest) = some (.number value, rest) := by
  obtain ⟨digit, more, starts, noZero⟩ := decimal.first
  have accepted : ¬ (text = [] ∨ (text.head? = some '0' ∧ text ≠ ['0'])) := by
    rw [starts]
    intro refused
    rcases refused with empty | ⟨leading, longer⟩
    · cases empty
    · have zero : digit = '0' := by simpa using leading
      apply longer
      rw [zero, noZero zero]
  unfold readNumber
  simp only [take_while_append_of_stops decimal.digits stops,
    drop_while_append_of_stops decimal.digits stops, accepted, if_false, decimal.value]

section Separated

variable {Part : Type} {readPart : Reader Part} {close : Char}

theorem read_separated_last {count : Nat} {text rest : List Char} {last : Part}
    (closing : close ≠ ',') (reads : readPart text = some (last, close :: rest)) :
    readSeparated readPart close (count + 1) text = some ([last], rest) := by
  simp [readSeparated, reads, closing]

theorem read_separated_more {count : Nat} {text others rest : List Char} {first : Part}
    {parts : List Part} (counted : (text ++ ',' :: others).length ≤ count)
    (reads : readPart (text ++ ',' :: (others ++ close :: rest)) =
      some (first, ',' :: (others ++ close :: rest)))
    (more : ∀ fewer, others.length ≤ fewer →
      readSeparated readPart close (fewer + 1) (others ++ close :: rest) = some (parts, rest)) :
    readSeparated readPart close (count + 1) (text ++ ',' :: others ++ close :: rest) =
      some (first :: parts, rest) := by
  simp only [List.length_append, List.length_cons] at counted
  cases count with
  | zero => omega
  | succ fewer =>
      rw [List.append_assoc, List.cons_append, readSeparated, reads]
      simp [more fewer (by omega)]

theorem read_bracketed_blank (readPart : Reader Part) {blank : List Char} (rest : List Char)
    (space : Space blank) (closing : isSpace close = false) :
    readBracketed readPart close (blank ++ close :: rest) = some ([], rest) := by
  unfold readBracketed
  rw [skip_space_append space (stops_cons.mpr closing)]
  simp

theorem read_bracketed_parts {text rest : List Char} {parts : List Part}
    (begins : Begins text) (closing : close = ']' ∨ close = '\x7d')
    (reads : ∀ count, text.length ≤ count →
      readSeparated readPart close (count + 1) (text ++ close :: rest) = some (parts, rest)) :
    readBracketed readPart close (text ++ close :: rest) = some (parts, rest) := by
  obtain ⟨blank, _, splits, space, first, more, rfl, noSpace, noArray, noObject⟩ :=
    begins.append (close :: rest)
  have skipped : skipSpace (text ++ close :: rest) = first :: more := by
    rw [splits, skip_space_append space (stops_cons.mpr noSpace)]
  have different : first ≠ close := by
    rcases closing with rfl | rfl
    · exact noArray
    · exact noObject
  have separated := reads (text.length + rest.length) (by omega)
  rw [Nat.add_assoc, ← List.length_cons, ← List.length_append] at separated
  unfold readBracketed
  rw [skipped]
  simp only [different, if_false]
  exact separated

end Separated

theorem ne_of_is_digit {digit other : Char} (isDigit : digit.isDigit = true)
    (noDigit : other.isDigit = false) : digit ≠ other := by
  intro same
  rw [same, noDigit] at isDigit
  cases isDigit

theorem opens_value {value : JsonValue} {text : List Char} (spelled : Spells (.value value) text) :
    Opens text := by
  cases spelled with
  | number decimal =>
      obtain ⟨digit, more, rfl, _⟩ := decimal.first
      have isDigit := decimal.digits digit (by simp)
      exact ⟨digit, more, rfl, not_space_of_is_digit isDigit, ne_of_is_digit isDigit rfl,
        ne_of_is_digit isDigit rfl⟩
  | text letters => exact ⟨'"', _, rfl, rfl, by decide, by decide⟩
  | emptyArray space => exact ⟨'[', _, rfl, rfl, by decide, by decide⟩
  | array elements => exact ⟨'[', _, rfl, rfl, by decide, by decide⟩
  | emptyObject space => exact ⟨'\x7b', _, rfl, rfl, by decide, by decide⟩
  | object members => exact ⟨'\x7b', _, rfl, rfl, by decide, by decide⟩

theorem begins_element {value : JsonValue} {text : List Char}
    (spelled : Spells (.element value) text) : Begins text := by
  cases spelled with
  | @element _ before text after leading spelled trailing =>
      have begins : Begins (before ++ text) := ⟨before, text, rfl, leading, opens_value spelled⟩
      exact begins.append after

theorem begins_elements {values : List JsonValue} {text : List Char}
    (spelled : Spells (.elements values) text) : Begins text := by
  cases spelled with
  | lastElement last => exact begins_element last
  | moreElements first more => exact (begins_element first).append _

theorem begins_member {key : String} {value : JsonValue} {text : List Char}
    (spelled : Spells (.member key value) text) : Begins text := by
  cases spelled with
  | @member _ _ before name after text leading letters trailing spelled =>
      refine ⟨before, '"' :: name ++ '"' :: after ++ ':' :: text, by simp, leading, ?_⟩
      exact ⟨'"', _, rfl, rfl, by decide, by decide⟩

theorem begins_members {members : List (String × JsonValue)} {text : List Char}
    (spelled : Spells (.members members) text) : Begins text := by
  cases spelled with
  | lastMember last => exact begins_member last
  | moreMembers first more => exact (begins_member first).append _

/-! ## Every text of the grammar is read -/

/-- What may follow an element: no digit that would go on with a number and no more space. -/
def Follows (rest : List Char) : Prop :=
  Stops Char.isDigit rest ∧ Stops isSpace rest

/-- A text is read as the phrase, whatever follows it. Neither the depth nor the count has to be
larger than the text is long. -/
def Reads : Phrase → List Char → Prop
  | .value value, text => ∀ depth rest, text.length ≤ depth → Stops Char.isDigit rest →
      readValue (depth + 1) (text ++ rest) = some (value, rest)
  | .element value, text => ∀ depth rest, text.length ≤ depth → Follows rest →
      readElement (readValue (depth + 1)) (text ++ rest) = some (value, rest)
  | .elements values, text => ∀ depth count rest, text.length ≤ depth → text.length ≤ count →
      readSeparated (readElement (readValue (depth + 1))) ']' (count + 1) (text ++ ']' :: rest) =
        some (values, rest)
  | .member key value, text => ∀ depth rest, text.length ≤ depth → Follows rest →
      readMember (readValue (depth + 1)) (text ++ rest) = some ((key, value), rest)
  | .members members, text => ∀ depth count rest, text.length ≤ depth → text.length ≤ count →
      readSeparated (readMember (readValue (depth + 1))) '\x7d' (count + 1)
        (text ++ '\x7d' :: rest) = some (members, rest)

theorem follows_cons {next : Char} (rest : List Char) (noDigit : next.isDigit = false)
    (noSpace : isSpace next = false) : Follows (next :: rest) :=
  ⟨stops_cons.mpr noDigit, stops_cons.mpr noSpace⟩

theorem reads_number {value : Nat} {text : List Char} (decimal : Decimal value text) :
    Reads (.value (.number value)) text := by
  intro depth rest enough stops
  have reads := read_number_append decimal stops
  obtain ⟨digit, more, rfl, _⟩ := decimal.first
  have isDigit := decimal.digits digit (by simp)
  rw [List.cons_append] at reads ⊢
  have noArray : digit ≠ '[' := ne_of_is_digit isDigit rfl
  have noObject : digit ≠ '\x7b' := ne_of_is_digit isDigit rfl
  have noText : digit ≠ '"' := ne_of_is_digit isDigit rfl
  simpa [readValue, noArray, noObject, noText] using reads

theorem reads_array {values : List JsonValue} {text : List Char} (begins : Begins text)
    (reads : Reads (.elements values) text) :
    Reads (.value (.array values)) ('[' :: text ++ [']']) := by
  intro depth rest enough stops
  cases depth with
  | zero => simp at enough
  | succ depth =>
      have shorter : text.length ≤ depth := by
        simp only [List.cons_append, List.length_cons, List.length_append] at enough
        omega
      have bracketed := read_bracketed_parts begins (Or.inl rfl) fun count counted =>
        reads depth count rest shorter counted
      simpa [readValue] using bracketed

theorem reads_object {members : List (String × JsonValue)} {text : List Char}
    (begins : Begins text) (reads : Reads (.members members) text) :
    Reads (.value (.object members)) ('\x7b' :: text ++ ['\x7d']) := by
  intro depth rest enough stops
  cases depth with
  | zero => simp at enough
  | succ depth =>
      have shorter : text.length ≤ depth := by
        simp only [List.cons_append, List.length_cons, List.length_append] at enough
        omega
      have bracketed := read_bracketed_parts begins (Or.inr rfl) fun count counted =>
        reads depth count rest shorter counted
      simpa [readValue] using bracketed

theorem reads_element {value : JsonValue} {before text after : List Char} (leading : Space before)
    (trailing : Space after) (spelled : Spells (.value value) text)
    (reads : Reads (.value value) text) : Reads (.element value) (before ++ text ++ after) := by
  intro depth rest enough follows
  simp only [List.length_append] at enough
  have stops : Stops isSpace (text ++ (after ++ rest)) := ((opens_value spelled).append _).stops
  have first := reads depth (after ++ rest) (by omega) (stops_digit_append trailing follows.1)
  unfold readElement
  rw [List.append_assoc, List.append_assoc, skip_space_append leading stops, first]
  simp [skip_space_append trailing follows.2]

theorem reads_member {key : String} {value : JsonValue} {before name after text : List Char}
    (leading : Space before) (letters : Letters key.toList name) (trailing : Space after)
    (reads : Reads (.element value) text) :
    Reads (.member key value) (before ++ '"' :: name ++ '"' :: after ++ ':' :: text) := by
  intro depth rest enough follows
  simp only [List.length_append, List.length_cons] at enough
  have parts : before ++ '"' :: name ++ '"' :: after ++ ':' :: text ++ rest =
      before ++ ('"' :: name ++ '"' :: (after ++ ':' :: (text ++ rest))) := by
    simp
  have quote : Stops isSpace ('"' :: name ++ '"' :: (after ++ ':' :: (text ++ rest))) :=
    stops_cons.mpr rfl
  have colon : Stops isSpace (':' :: (text ++ rest)) := stops_cons.mpr rfl
  have element := reads depth rest (by omega) follows
  unfold readMember
  rw [parts, skip_space_append leading quote, read_string_append letters]
  simp [skip_space_append trailing colon, element]

/-- The reader finds every phrase of the grammar: one case for each of its rules. -/
theorem reads_of_spells {phrase : Phrase} {text : List Char} (spelled : Spells phrase text) :
    Reads phrase text := by
  induction spelled with
  | number decimal => exact reads_number decimal
  | text letters =>
      intro depth rest enough stops
      simpa [readValue] using read_string_append letters rest
  | emptyArray space =>
      intro depth rest enough stops
      simpa [readValue] using
        read_bracketed_blank (readElement (readValue depth)) rest space rfl
  | array elements ih => exact reads_array (begins_elements elements) ih
  | emptyObject space =>
      intro depth rest enough stops
      simpa [readValue] using
        read_bracketed_blank (readMember (readValue depth)) rest space rfl
  | object members ih => exact reads_object (begins_members members) ih
  | element leading spelled trailing ih => exact reads_element leading trailing spelled ih
  | lastElement last ih =>
      intro depth count rest enough counted
      apply read_separated_last (by decide)
      exact ih depth _ enough (follows_cons rest rfl rfl)
  | moreElements first more ihFirst ihMore =>
      intro depth count rest enough counted
      simp only [List.length_append, List.length_cons] at enough
      apply read_separated_more counted
      · exact ihFirst depth _ (by omega) (follows_cons _ rfl rfl)
      · exact fun fewer counted => ihMore depth fewer rest (by omega) counted
  | member leading letters trailing spelled ih => exact reads_member leading letters trailing ih
  | lastMember last ih =>
      intro depth count rest enough counted
      apply read_separated_last (by decide)
      exact ih depth _ enough (follows_cons rest rfl rfl)
  | moreMembers first more ihFirst ihMore =>
      intro depth count rest enough counted
      simp only [List.length_append, List.length_cons] at enough
      apply read_separated_more counted
      · exact ihFirst depth _ (by omega) (follows_cons _ rfl rfl)
      · exact fun fewer counted => ihMore depth fewer rest (by omega) counted

theorem read_of_spells {value : JsonValue} {text : String}
    (spelled : Spells (.element value) text.toList) : read text = some value := by
  have reads := reads_of_spells spelled text.toList.length [] (Nat.le_refl _)
    ⟨by simp [Stops], by simp [Stops]⟩
  rw [List.append_nil] at reads
  unfold read
  rw [reads]

example : read "[ 10,\"\\u0041\\ud83d\\ude00/\"\n]" = some (.array [.number 10, .text "A😀/"]) := by
  rfl

theorem spelled_unique {value other : JsonValue} {text : String}
    (spelled : Spells (.element value) text.toList)
    (alsoSpelled : Spells (.element other) text.toList) : other = value := by
  have same := read_of_spells alsoSpelled
  rw [read_of_spells spelled] at same
  exact (Option.some.inj same).symm

end JsonText
end CodeAudit
