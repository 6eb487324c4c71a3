import CodeAudit.Rule.Pattern
import Mathlib.Data.List.Basic

/-!
The grammar of string literals. A line is code with literals in it, of which the last may lack its
closing quote. A line can be divided by this grammar in one way only, and an offset is inside a
literal exactly where the division has it after the beginning of a literal and before its end. So
the findings of a pattern are its matches that begin outside the literals of their line.
-/

namespace CodeAudit
namespace Literal

abbrev Code := List { character : Char // isQuote character = false }

inductive Item (quote : Char) where
  | plain (character : Char) (other : character ≠ quote ∧ character ≠ '\\')
  | escape (character : Char)

structure Opening where
  quote : Char
  quoted : isQuote quote = true
  items : List (Item quote)

/-- A line as the grammar divides it: code up to its end, code and a literal that the line does not
close, or code and a closed literal before the rest. An open literal may end in a lone backslash. -/
inductive Division where
  | code (last : Code)
  | unclosed (before : Code) (opening : Opening) (loneBackslash : Bool)
  | closed (before : Code) (opening : Opening) (rest : Division)

def codeText (code : Code) : List Char :=
  code.map Subtype.val

def Item.text {quote : Char} : Item quote → List Char
  | plain character _ => [character]
  | escape character => ['\\', character]

def itemsText {quote : Char} (items : List (Item quote)) : List Char :=
  items.flatMap Item.text

def tailText (loneBackslash : Bool) : List Char :=
  if loneBackslash then ['\\'] else []

def Opening.text (opening : Opening) : List Char :=
  opening.quote :: itemsText opening.items

def byteLength (text : List Char) : Nat :=
  (String.ofList text).utf8ByteSize

namespace Division

def text : Division → List Char
  | code last => codeText last
  | unclosed before opening loneBackslash =>
      codeText before ++ (opening.text ++ tailText loneBackslash)
  | closed before opening rest =>
      codeText before ++ (opening.text ++ opening.quote :: rest.text)

/-- The first byte of each closed literal and the byte after its closing quote, in a line that
begins at the given byte. -/
def closedRanges : Division → Nat → List (Nat × Nat)
  | code _, _ => []
  | unclosed _ _ _, _ => []
  | closed before opening rest, base =>
      let start := base + byteLength (codeText before)
      let stop := start + byteLength (opening.text ++ [opening.quote])
      (start, stop) :: rest.closedRanges stop

def unclosedStart? : Division → Nat → Option Nat
  | code _, _ => none
  | unclosed before _ _, base => some (base + byteLength (codeText before))
  | closed before opening rest, base =>
      rest.unclosedStart? (base + byteLength (codeText before) +
        byteLength (opening.text ++ [opening.quote]))

/-- The place lies after the beginning of a closed literal and before its end, or after the
beginning of one that is not closed. -/
def InsideFrom (division : Division) (base place : Nat) : Prop :=
  (∃ range ∈ division.closedRanges base, range.1 < place ∧ place < range.2) ∨
    ∃ start ∈ division.unclosedStart? base, start < place

def Inside (division : Division) (offset : Nat) : Prop :=
  division.InsideFrom 0 offset

instance (division : Division) (offset : Nat) : Decidable (division.Inside offset) :=
  inferInstanceAs (Decidable (_ ∨ _))

def addCode (more : Code) : Division → Division
  | code last => code (more ++ last)
  | unclosed before opening loneBackslash => unclosed (more ++ before) opening loneBackslash
  | closed before opening rest => closed (more ++ before) opening rest

end Division

inductive Remainder (quote : Char) where
  | unclosed (items : List (Item quote)) (loneBackslash : Bool)
  | closed (items : List (Item quote)) (rest : Division)

namespace Remainder

def text {quote : Char} : Remainder quote → List Char
  | unclosed items loneBackslash => itemsText items ++ tailText loneBackslash
  | closed items rest => itemsText items ++ quote :: rest.text

def addItems {quote : Char} (more : List (Item quote)) : Remainder quote → Remainder quote
  | unclosed items loneBackslash => unclosed (more ++ items) loneBackslash
  | closed items rest => closed (more ++ items) rest

def behind {quote : Char} (quoted : isQuote quote = true) : Remainder quote → Division
  | unclosed items loneBackslash => .unclosed [] ⟨quote, quoted, items⟩ loneBackslash
  | closed items rest => .closed [] ⟨quote, quoted, items⟩ rest

end Remainder

mutual

def divide : List Char → Division
  | [] => .code []
  | character :: rest =>
      if quoted : isQuote character = true then
        (divideQuoted character rest).behind quoted
      else
        (divide rest).addCode [⟨character, by simpa using quoted⟩]

def divideQuoted (quote : Char) : List Char → Remainder quote
  | [] => .unclosed [] false
  | character :: rest =>
      if backslash : character = '\\' then
        match rest with
        | [] => .unclosed [] true
        | next :: later => (divideQuoted quote later).addItems [.escape next]
      else if closing : character = quote then
        .closed [] (divide rest)
      else
        (divideQuoted quote rest).addItems [.plain character ⟨closing, backslash⟩]

end

section Text

@[simp] theorem byte_length_nil : byteLength [] = 0 := rfl

@[simp] theorem byte_length_cons (character : Char) (rest : List Char) :
    byteLength (character :: rest) = character.utf8Size + byteLength rest := by
  rw [byteLength, String.ofList_cons, String.utf8ByteSize_append, String.utf8ByteSize_singleton]
  rfl

@[simp] theorem byte_length_append (left right : List Char) :
    byteLength (left ++ right) = byteLength left + byteLength right := by
  rw [byteLength, String.ofList_append, String.utf8ByteSize_append]
  rfl

theorem is_quote_iff (character : Char) : isQuote character = true ↔
    character = '"' ∨ character = '\'' ∨ character = '\x60' := by
  simp [isQuote, or_assoc]

/-- Quotes take one byte, so that no offset falls within one. -/
theorem utf8_size_of_is_quote {character : Char} (quoted : isQuote character = true) :
    character.utf8Size = 1 := by
  rcases (is_quote_iff character).mp quoted with rfl | rfl | rfl
  · rfl
  · rfl
  · rfl

theorem ne_backslash_of_is_quote {character : Char} (quoted : isQuote character = true) :
    character ≠ '\\' := by
  rintro rfl
  cases quoted

theorem text_add_code (more : Code) (division : Division) :
    (division.addCode more).text = codeText more ++ division.text := by
  cases division with
  | code last => simp [Division.addCode, Division.text, codeText]
  | unclosed before opening loneBackslash => simp [Division.addCode, Division.text, codeText]
  | closed before opening rest => simp [Division.addCode, Division.text, codeText]

theorem add_code_nil (division : Division) : division.addCode [] = division := by
  cases division with
  | code last => rfl
  | unclosed before opening loneBackslash => rfl
  | closed before opening rest => rfl

theorem add_code_add_code (more before : Code) (division : Division) :
    (division.addCode before).addCode more = division.addCode (more ++ before) := by
  cases division with
  | code last => simp [Division.addCode]
  | unclosed before opening loneBackslash => simp [Division.addCode]
  | closed before opening rest => simp [Division.addCode]

theorem text_add_items {quote : Char} (more : List (Item quote)) (remainder : Remainder quote) :
    (remainder.addItems more).text = itemsText more ++ remainder.text := by
  cases remainder with
  | unclosed items loneBackslash => simp [Remainder.addItems, Remainder.text, itemsText]
  | closed items rest => simp [Remainder.addItems, Remainder.text, itemsText]

theorem add_items_nil {quote : Char} (remainder : Remainder quote) :
    remainder.addItems [] = remainder := by
  cases remainder with
  | unclosed items loneBackslash => rfl
  | closed items rest => rfl

theorem add_items_add_items {quote : Char} (more before : List (Item quote))
    (remainder : Remainder quote) :
    (remainder.addItems before).addItems more = remainder.addItems (more ++ before) := by
  cases remainder with
  | unclosed items loneBackslash => simp [Remainder.addItems]
  | closed items rest => simp [Remainder.addItems]

theorem text_behind {quote : Char} (quoted : isQuote quote = true)
    (remainder : Remainder quote) : (remainder.behind quoted).text = quote :: remainder.text := by
  cases remainder with
  | unclosed items loneBackslash => rfl
  | closed items rest => rfl

end Text

section Quoted

variable {quote : Char}

theorem divide_quoted_tail (quote : Char) (loneBackslash : Bool) :
    divideQuoted quote (tailText loneBackslash) = .unclosed [] loneBackslash := by
  cases loneBackslash with
  | false => rfl
  | true => rw [tailText, if_pos rfl, divideQuoted, dif_pos rfl]

theorem divide_quoted_escape (character : Char) (rest : List Char) :
    divideQuoted quote ('\\' :: character :: rest) =
      (divideQuoted quote rest).addItems [.escape character] := by
  rw [divideQuoted, dif_pos rfl]

theorem divide_quoted_quote (different : quote ≠ '\\') (rest : List Char) :
    divideQuoted quote (quote :: rest) = .closed [] (divide rest) := by
  cases rest with
  | nil => rw [divideQuoted, dif_neg different, dif_pos rfl]
  | cons next later => rw [divideQuoted, dif_neg different, dif_pos rfl]

theorem divide_quoted_plain {character : Char} (other : character ≠ quote ∧ character ≠ '\\')
    (rest : List Char) : divideQuoted quote (character :: rest) =
      (divideQuoted quote rest).addItems [.plain character other] := by
  cases rest with
  | nil => simp only [divideQuoted, dif_neg other.2, dif_neg other.1]
  | cons next later => simp only [divideQuoted, dif_neg other.2, dif_neg other.1]

end Quoted

mutual

theorem text_divide (line : List Char) : (divide line).text = line := by
  cases line with
  | nil => rfl
  | cons character rest =>
      rw [divide]
      split
      · rw [text_behind, text_divide_quoted character rest]
      · rw [text_add_code, text_divide rest]
        rfl

theorem text_divide_quoted (quote : Char) (line : List Char) :
    (divideQuoted quote line).text = line := by
  cases line with
  | nil => rfl
  | cons character rest =>
      by_cases backslash : character = '\\'
      · subst backslash
        cases rest with
        | nil => exact congrArg Remainder.text (divide_quoted_tail quote true)
        | cons next later =>
            rw [divide_quoted_escape, text_add_items, text_divide_quoted quote later]
            rfl
      · by_cases closing : character = quote
        · subst closing
          rw [divide_quoted_quote backslash, Remainder.text, text_divide rest]
          rfl
        · rw [divide_quoted_plain ⟨closing, backslash⟩, text_add_items,
            text_divide_quoted quote rest]
          rfl

end

section Unique

theorem divide_code (code : Code) (rest : List Char) :
    divide (codeText code ++ rest) = (divide rest).addCode code := by
  induction code with
  | nil => exact (add_code_nil _).symm
  | cons character code ih =>
      have unquoted : ¬ isQuote character.val = true := by simp [character.property]
      have step : codeText (character :: code) ++ rest =
          character.val :: (codeText code ++ rest) := rfl
      rw [step, divide, dif_neg unquoted, ih, add_code_add_code]
      rfl

theorem divide_quoted_items {quote : Char} (items : List (Item quote)) (rest : List Char) :
    divideQuoted quote (itemsText items ++ rest) = (divideQuoted quote rest).addItems items := by
  induction items with
  | nil => exact (add_items_nil _).symm
  | cons item items ih =>
      cases item with
      | plain character other =>
          have step : itemsText (Item.plain character other :: items) ++ rest =
              character :: (itemsText items ++ rest) := rfl
          rw [step, divide_quoted_plain other, ih, add_items_add_items, List.singleton_append]
      | escape character =>
          have step : itemsText (Item.escape character :: items) ++ rest =
              '\\' :: character :: (itemsText items ++ rest) := rfl
          rw [step, divide_quoted_escape, ih, add_items_add_items, List.singleton_append]

theorem divide_opening (opening : Opening) (rest : List Char) :
    divide (opening.text ++ rest) =
      ((divideQuoted opening.quote rest).addItems opening.items).behind opening.quoted := by
  have step : opening.text ++ rest = opening.quote :: (itemsText opening.items ++ rest) := rfl
  rw [step, divide, dif_pos opening.quoted, divide_quoted_items]

theorem divide_text (division : Division) : divide division.text = division := by
  induction division with
  | code last =>
      have whole := divide_code last []
      rw [List.append_nil] at whole
      rw [Division.text, whole, divide, Division.addCode, List.append_nil]
  | unclosed before opening loneBackslash =>
      rw [Division.text, divide_code, divide_opening, divide_quoted_tail, Remainder.addItems,
        Remainder.behind, Division.addCode, List.append_nil, List.append_nil]
  | closed before opening rest ih =>
      rw [Division.text, divide_code, divide_opening,
        divide_quoted_quote (ne_backslash_of_is_quote opening.quoted), ih, Remainder.addItems,
        Remainder.behind, Division.addCode, List.append_nil, List.append_nil]

theorem text_eq_iff (division : Division) (line : List Char) :
    division.text = line ↔ division = divide line := by
  constructor
  · intro same
    rw [← same, divide_text]
  · intro same
    rw [same, text_divide]

end Unique

section Offsets

theorem inside_from_zero (state : State) (line : List Char) :
    insideFrom state 0 line = state.isInside := by
  cases line with
  | nil => rfl
  | cons character rest => rfl

theorem inside_from_cons (state : State) (offset : Nat) (character : Char) (rest : List Char) :
    insideFrom state offset (character :: rest) =
      if offset = 0 then state.isInside
      else insideFrom (state.next character) (offset - character.utf8Size) rest := by
  cases offset with
  | zero => rfl
  | succ bytes => rfl

/-- Code is passed over: an offset in it leaves nothing to read, in the state it began with. -/
theorem inside_from_code (code : Code) (offset : Nat) (rest : List Char) :
    insideFrom .code offset (codeText code ++ rest) =
      insideFrom .code (offset - byteLength (codeText code)) rest := by
  induction code generalizing offset with
  | nil => rfl
  | cons character code ih =>
      have step : codeText (character :: code) = character.val :: codeText code := rfl
      have stays : State.next .code character.val = .code := by
        rw [State.next, if_neg (by simp [character.property])]
      rw [step, List.cons_append, inside_from_cons, byte_length_cons, stays, ih, Nat.sub_sub]
      split
      · next atStart => rw [atStart, Nat.zero_sub, inside_from_zero]
      · rfl

theorem inside_from_items {quote : Char} (items : List (Item quote)) (offset : Nat)
    (rest : List Char) :
    insideFrom (.inside quote) offset (itemsText items ++ rest) =
      insideFrom (.inside quote) (offset - byteLength (itemsText items)) rest := by
  induction items generalizing offset with
  | nil => rfl
  | cons item items ih =>
      cases item with
      | plain character other =>
          have step : itemsText (Item.plain character other :: items) =
              character :: itemsText items := rfl
          have stays : State.next (.inside quote) character = .inside quote := by
            rw [State.next, if_neg (by simp [other.2]), if_neg (by simp [other.1])]
          rw [step, List.cons_append, inside_from_cons, byte_length_cons, stays, ih, Nat.sub_sub]
          split
          · next atStart => rw [atStart, Nat.zero_sub, inside_from_zero]
          · rfl
      | escape character =>
          have step : itemsText (Item.escape character :: items) =
              '\\' :: character :: itemsText items := rfl
          have escapes : State.next (.inside quote) '\\' = .escaped quote := rfl
          have returns : State.next (.escaped quote) character = .inside quote := rfl
          rw [step, List.cons_append, List.cons_append, inside_from_cons, inside_from_cons,
            byte_length_cons, byte_length_cons, escapes, returns, ih, Nat.sub_sub, Nat.sub_sub]
          split
          · next atStart => rw [atStart, Nat.zero_sub, inside_from_zero]
          · split
            · next atEscaped =>
                have used : offset - ('\\'.utf8Size + (character.utf8Size +
                    byteLength (itemsText items))) = 0 := by omega
                rw [used, inside_from_zero]
                rfl
            · rfl

theorem inside_from_opening (opening : Opening) (offset : Nat) (rest : List Char) :
    insideFrom .code offset (opening.text ++ rest) =
      if offset = 0 then false
      else insideFrom (.inside opening.quote) (offset - byteLength opening.text) rest := by
  have opens : State.next .code opening.quote = .inside opening.quote := by
    rw [State.next, if_pos opening.quoted]
  rw [Opening.text, List.cons_append, inside_from_cons, opens, inside_from_items, byte_length_cons,
    Nat.sub_sub]
  rfl

theorem inside_from_tail (quote : Char) (offset : Nat) (loneBackslash : Bool) :
    insideFrom (.inside quote) offset (tailText loneBackslash) = true := by
  cases loneBackslash with
  | false => rfl
  | true =>
      rw [tailText, if_pos rfl, inside_from_cons]
      split
      · rfl
      · rfl

theorem inside_from_quote {quote : Char} (quoted : isQuote quote = true) (offset : Nat)
    (rest : List Char) :
    insideFrom (.inside quote) offset (quote :: rest) =
      if offset = 0 then true else insideFrom .code (offset - 1) rest := by
  have closes : State.next (.inside quote) quote = .code := by
    rw [State.next, if_neg (by simpa using ne_backslash_of_is_quote quoted),
      if_pos (beq_self_eq_true quote)]
  rw [inside_from_cons, closes, utf8_size_of_is_quote quoted]
  rfl

/-- A closed literal with what follows it: inside from its second byte up to its end. -/
theorem inside_from_closed (opening : Opening) (offset : Nat) (rest : List Char) :
    insideFrom .code offset (opening.text ++ opening.quote :: rest) =
      if offset = 0 then false
      else if offset < byteLength (opening.text ++ [opening.quote]) then true
      else insideFrom .code (offset - byteLength (opening.text ++ [opening.quote])) rest := by
  have size : byteLength (opening.text ++ [opening.quote]) = byteLength opening.text + 1 := by
    rw [byte_length_append, byte_length_cons, byte_length_nil, utf8_size_of_is_quote opening.quoted]
  rw [inside_from_opening, inside_from_quote opening.quoted, Nat.sub_sub, size]
  split
  · rfl
  · congr 1
    rw [eq_iff_iff]
    omega

namespace Division

theorem base_le_closed {division : Division} {base : Nat} {range : Nat × Nat}
    (member : range ∈ division.closedRanges base) : base ≤ range.1 := by
  induction division generalizing base with
  | code last => cases member
  | unclosed before opening loneBackslash => cases member
  | closed before opening rest ih =>
      rw [closedRanges] at member
      rcases List.mem_cons.mp member with same | later
      · rw [same]
        exact Nat.le_add_right _ _
      · have after := ih later
        omega

theorem base_le_unclosed {division : Division} {base start : Nat}
    (found : start ∈ division.unclosedStart? base) : base ≤ start := by
  induction division generalizing base with
  | code last => cases found
  | unclosed before opening loneBackslash =>
      rw [unclosedStart?, Option.mem_some_iff] at found
      omega
  | closed before opening rest ih =>
      have after := ih found
      omega

theorem not_inside_from_of_le {division : Division} {base place : Nat} (early : place ≤ base) :
    ¬ division.InsideFrom base place := by
  rintro (⟨range, member, begun, _⟩ | ⟨start, found, begun⟩)
  · have after := base_le_closed member
    omega
  · have after := base_le_unclosed found
    omega

theorem inside_from_closed_iff (before : Code) (opening : Opening) (rest : Division)
    (base place : Nat) : (closed before opening rest).InsideFrom base place ↔
      (base + byteLength (codeText before) < place ∧
        place < base + byteLength (codeText before) +
          byteLength (opening.text ++ [opening.quote])) ∨
      rest.InsideFrom (base + byteLength (codeText before) +
        byteLength (opening.text ++ [opening.quote])) place := by
  rw [InsideFrom, InsideFrom, closedRanges, unclosedStart?, List.exists_mem_cons_iff, or_assoc]

/-- The scan of a line agrees with its division, wherever the line begins. -/
theorem inside_from_text (division : Division) (base offset : Nat) :
    insideFrom .code offset division.text = true ↔
      division.InsideFrom base (base + offset) := by
  induction division generalizing base offset with
  | code last =>
      have whole := inside_from_code last offset []
      rw [List.append_nil] at whole
      simp [text, whole, insideFrom, State.isInside, InsideFrom, closedRanges, unclosedStart?]
  | unclosed before opening loneBackslash =>
      rw [text, inside_from_code, inside_from_opening, inside_from_tail]
      have begun : (unclosed before opening loneBackslash).InsideFrom base (base + offset) ↔
          base + byteLength (codeText before) < base + offset := by
        simp [InsideFrom, closedRanges, unclosedStart?]
      rw [begun, ite_eq_right_iff]
      constructor
      · intro later
        have reached : offset - byteLength (codeText before) ≠ 0 :=
          fun atStart => Bool.false_ne_true (later atStart)
        omega
      · intro later atStart
        omega
  | closed before opening rest ih =>
      rw [text, inside_from_code, inside_from_closed, inside_from_closed_iff]
      generalize codeSize : byteLength (codeText before) = code
      generalize literalSize : byteLength (opening.text ++ [opening.quote]) = literal
      by_cases early : offset - code = 0
      · have none := @not_inside_from_of_le rest (base + code + literal) (base + offset) (by omega)
        rw [if_pos early]
        simp only [Bool.false_eq_true, none, or_false, false_iff]
        omega
      · rw [if_neg early]
        by_cases within : offset - code < literal
        · rw [if_pos within]
          simp only [true_iff]
          exact Or.inl (by omega)
        · have shifted : base + code + literal + (offset - code - literal) = base + offset := by
            omega
          rw [if_neg within, ih (base + code + literal), shifted]
          constructor
          · exact Or.inr
          · intro inside
            exact inside.resolve_left (by omega)

end Division

theorem is_inside_iff (line : List Char) (offset : Nat) :
    isInside line offset = true ↔ (divide line).Inside offset := by
  have scanned := (divide line).inside_from_text 0 offset
  rwa [text_divide, Nat.zero_add] at scanned

end Offsets

/-- Every line is divided into code and literals in one way. An offset is taken to be inside a
literal exactly if it lies after the beginning of a closed literal and before its end, or after the
beginning of the one that is not closed. The findings of a pattern are its matches that begin
outside every literal, line after line and in the order of the matches. -/
theorem findings_outside_literals (line : List Char) (offset : Nat) (info : RuleInfo)
    (program : Regex.Program) (unit : SourceUnit) :
    (∃! division : Division, division.text = line) ∧ (divide line).text = line ∧
      (isInside line offset = true ↔ (divide line).Inside offset) ∧
      Pattern.findings info program unit =
        (Text.lines unit.source.toList).zipIdx.flatMap fun (given, index) =>
          ((program.findAll given).filter fun found => ¬ (divide given).Inside found.1).map
            (Pattern.finding info unit.path (index + 1) given) := by
  refine ⟨?_, text_divide line, is_inside_iff line offset, ?_⟩
  · refine ⟨divide line, text_divide line, ?_⟩
    intro division same
    exact (text_eq_iff division line).mp same
  · rw [Pattern.findings, List.flatMap_def]
    congr 2
    funext ⟨given, index⟩
    simp only [Pattern.lineFindings, Pattern.matchesIn]
    congr 1
    apply List.filter_congr
    intro found _
    rw [Bool.eq_iff_iff, decide_eq_true_eq, ← is_inside_iff, Bool.not_eq_true',
      Bool.not_eq_true]

-- Neither a quote of another kind nor an escaped one closes a literal, whose opening quote is
-- itself outside.
example : (isInside "x'a\"\\'b'\"c".toList) <$> [1, 2, 5, 7, 8, 9] =
    [false, true, true, true, false, true] := by
  decide

end Literal
end CodeAudit
