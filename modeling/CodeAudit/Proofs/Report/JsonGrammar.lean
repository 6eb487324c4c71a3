import CodeAudit.Report.Json
import Mathlib.Data.List.Basic

/-!
The grammar of JSON texts, for the values that reports are made of: numbers without sign, fraction
and exponent, strings, arrays and objects, with blank space wherever the format allows it. The
written form of every value is a text of the grammar that spells the value.
-/

namespace CodeAudit
namespace JsonText

def isSpace (character : Char) : Bool :=
  character == ' ' || character == '\t' || character == '\n' || character == '\r'

def Space (text : List Char) : Prop :=
  ∀ character ∈ text, isSpace character = true

/-- The characters that are written as a backslash and a mark, by their marks. -/
def unmarked? : Char → Option Char
  | '"' => some '"'
  | '\\' => some '\\'
  | '/' => some '/'
  | 'b' => some '\x08'
  | 'f' => some '\x0c'
  | 'n' => some '\n'
  | 'r' => some '\r'
  | 't' => some '\t'
  | _ => none

def hexDigit? (digit : Char) : Option Nat :=
  if '0' ≤ digit ∧ digit ≤ '9' then some (digit.toNat - '0'.toNat)
  else if 'a' ≤ digit ∧ digit ≤ 'f' then some (digit.toNat - 'a'.toNat + 10)
  else if 'A' ≤ digit ∧ digit ≤ 'F' then some (digit.toNat - 'A'.toNat + 10)
  else none

def hexCode? (digits : List Char) : Option Nat :=
  digits.foldlM (fun code digit => (hexDigit? digit).map (16 * code + ·)) 0

/-- The code of a character beyond the first 2¹⁶, from the two halves that stand for it. -/
def joined? (high low : Nat) : Option Nat :=
  if 0xd800 ≤ high ∧ high < 0xdc00 ∧ 0xdc00 ≤ low ∧ low < 0xe000 then
    some (0x10000 + 0x400 * (high - 0xd800) + (low - 0xdc00))
  else none

/-- A character of a string stands for itself, is marked, or is given by its code or by the two
halves of its code. -/
inductive Letter : Char → List Char → Prop where
  | plain {character : Char} (noControl : 0x20 ≤ character.toNat) (noQuote : character ≠ '"')
      (noBackslash : character ≠ '\\') : Letter character [character]
  | marked {character mark : Char} (marks : unmarked? mark = some character) :
      Letter character ['\\', mark]
  | coded {character first second third fourth : Char}
      (codes : hexCode? [first, second, third, fourth] = some character.toNat) :
      Letter character ['\\', 'u', first, second, third, fourth]
  | halved {character first second third fourth fifth sixth seventh eighth : Char} {high low : Nat}
      (highCodes : hexCode? [first, second, third, fourth] = some high)
      (lowCodes : hexCode? [fifth, sixth, seventh, eighth] = some low)
      (joins : joined? high low = some character.toNat) :
      Letter character
        ['\\', 'u', first, second, third, fourth, '\\', 'u', fifth, sixth, seventh, eighth]

inductive Letters : List Char → List Char → Prop where
  | nil : Letters [] []
  | cons {character : Char} {rest text others : List Char} (first : Letter character text)
      (more : Letters rest others) : Letters (character :: rest) (text ++ others)

structure Decimal (value : Nat) (text : List Char) : Prop where
  digits : ∀ digit ∈ text, digit.isDigit = true
  first : ∃ digit rest, text = digit :: rest ∧ (digit = '0' → rest = [])
  value : Nat.ofDigitChars 10 text 0 = value

/-- What a part of a text is to spell. An element is a value with the space around it. -/
inductive Phrase where
  | value (value : JsonValue)
  | element (value : JsonValue)
  | elements (values : List JsonValue)
  | member (key : String) (value : JsonValue)
  | members (members : List (String × JsonValue))

inductive Spells : Phrase → List Char → Prop where
  | number {value : Nat} {text : List Char} (decimal : Decimal value text) :
      Spells (.value (.number value)) text
  | text {value : String} {text : List Char} (letters : Letters value.toList text) :
      Spells (.value (.text value)) ('"' :: text ++ ['"'])
  | emptyArray {blank : List Char} (space : Space blank) :
      Spells (.value (.array [])) ('[' :: blank ++ [']'])
  | array {values : List JsonValue} {text : List Char} (elements : Spells (.elements values) text) :
      Spells (.value (.array values)) ('[' :: text ++ [']'])
  | emptyObject {blank : List Char} (space : Space blank) :
      Spells (.value (.object [])) ('\x7b' :: blank ++ ['\x7d'])
  | object {members : List (String × JsonValue)} {text : List Char}
      (spelled : Spells (.members members) text) :
      Spells (.value (.object members)) ('\x7b' :: text ++ ['\x7d'])
  | element {value : JsonValue} {before text after : List Char} (leading : Space before)
      (spelled : Spells (.value value) text) (trailing : Space after) :
      Spells (.element value) (before ++ text ++ after)
  | lastElement {value : JsonValue} {text : List Char} (last : Spells (.element value) text) :
      Spells (.elements [value]) text
  | moreElements {value : JsonValue} {values : List JsonValue} {text others : List Char}
      (first : Spells (.element value) text) (more : Spells (.elements values) others) :
      Spells (.elements (value :: values)) (text ++ ',' :: others)
  | member {key : String} {value : JsonValue} {before name after text : List Char}
      (leading : Space before) (letters : Letters key.toList name) (trailing : Space after)
      (spelled : Spells (.element value) text) :
      Spells (.member key value) (before ++ '"' :: name ++ '"' :: after ++ ':' :: text)
  | lastMember {key : String} {value : JsonValue} {text : List Char}
      (last : Spells (.member key value) text) : Spells (.members [(key, value)]) text
  | moreMembers {key : String} {value : JsonValue} {members : List (String × JsonValue)}
      {text others : List Char} (first : Spells (.member key value) text)
      (more : Spells (.members members) others) :
      Spells (.members ((key, value) :: members)) (text ++ ',' :: others)

/-! ## Numbers and strings as they are written -/

theorem digit_char_ne_zero : ∀ value < 10, 0 < value → value.digitChar ≠ '0' := by
  decide

theorem first_digit {value : Nat} (positive : 0 < value) :
    ∃ digit rest, Nat.toDigits 10 value = digit :: rest ∧ digit ≠ '0' := by
  induction value using Nat.strongRecOn with
  | ind value ih =>
      by_cases small : value < 10
      · exact ⟨value.digitChar, [], Nat.toDigits_of_lt_base small,
          digit_char_ne_zero value small positive⟩
      · obtain ⟨digit, rest, written, notZero⟩ := ih (value / 10) (by omega) (by omega)
        refine ⟨digit, rest ++ [(value % 10).digitChar], ?_, notZero⟩
        rw [Nat.toDigits_of_base_le (by decide) (by omega), written, List.cons_append]

theorem decimal_to_string (value : Nat) : Decimal value (toString value).toList := by
  rw [Nat.toString_eq_ofList_toDigits, String.toList_ofList]
  refine ⟨?_, ?_, Nat.ofDigitChars_ten_toDigits⟩
  · intro digit member
    exact Nat.isDigit_of_mem_toDigits (by decide) (by decide) member
  · rcases Nat.eq_zero_or_pos value with rfl | positive
    · exact ⟨'0', [], Nat.toDigits_zero 10, fun _ => rfl⟩
    · obtain ⟨digit, rest, written, notZero⟩ := first_digit positive
      exact ⟨digit, rest, written, fun isZero => (notZero isZero).elim⟩

theorem hex_code?_hex_digits : ∀ code < 0x20,
    (JsonValue.hexDigits code).length = 4 ∧ hexCode? (JsonValue.hexDigits code) = some code := by
  decide

theorem letter_escape_character (character : Char) :
    Letter character (JsonValue.escapeCharacter character) := by
  unfold JsonValue.escapeCharacter
  split
  · exact .marked rfl
  · exact .marked rfl
  · exact .marked rfl
  · exact .marked rfl
  · exact .marked rfl
  · exact .marked rfl
  · exact .marked rfl
  · next noQuote noBackslash _ _ _ _ _ =>
      split
      · next control =>
          obtain ⟨length, codes⟩ := hex_code?_hex_digits character.toNat control
          generalize JsonValue.hexDigits character.toNat = digits at length codes ⊢
          match digits, length with
          | [first, second, third, fourth], _ => exact .coded codes
      · next noControl => exact .plain (Nat.le_of_not_lt noControl) noQuote noBackslash

theorem letters_escaped (characters : List Char) :
    Letters characters (characters.flatMap JsonValue.escapeCharacter) := by
  induction characters with
  | nil => exact Letters.nil
  | cons character rest ih =>
      rw [List.flatMap_cons]
      exact Letters.cons (letter_escape_character character) ih

theorem to_list_quote (text : String) :
    (JsonValue.quote text).toList =
      '"' :: text.toList.flatMap JsonValue.escapeCharacter ++ ['"'] := by
  simp [JsonValue.quote]

/-! ## The layout -/

theorem space_line_at (level : Nat) : Space (JsonValue.lineAt level).toList := by
  intro character member
  simp only [JsonValue.lineAt, JsonValue.indent, String.toList_append, String.toList_ofList,
    List.mem_append] at member
  rcases member with newline | indent
  · rw [List.mem_singleton.mp newline]
    rfl
  · rw [List.eq_of_mem_replicate indent]
    rfl

theorem space_nil : Space [] := by
  intro character member
  cases member

theorem space_single : Space [' '] := by
  intro character member
  rw [List.mem_singleton.mp member]
  rfl

theorem spells_elements {level : Nat} {closing : List Char} (trailing : Space closing)
    (first : JsonValue) (rest : List JsonValue)
    (spelled : ∀ value ∈ first :: rest, Spells (.value value) (value.render level).toList) :
    Spells (.elements (first :: rest))
      ((JsonValue.lineAt level).toList ++ (first.render level).toList ++
        (JsonValue.renderItems level rest).toList ++ closing) := by
  induction rest generalizing first with
  | nil =>
      have element := Spells.element (space_line_at level) (spelled first (by simp)) trailing
      simpa [JsonValue.renderItems] using Spells.lastElement element
  | cons second rest ih =>
      have element := Spells.element (space_line_at level) (spelled first (by simp)) space_nil
      have others := ih second fun value member => spelled value (List.mem_cons_of_mem _ member)
      simpa [JsonValue.renderItems] using Spells.moreElements element others

theorem spells_member {level : Nat} {closing : List Char} (trailing : Space closing)
    (key : String) {value : JsonValue}
    (spelled : Spells (.value value) (value.render level).toList) :
    Spells (.member key value)
      ((JsonValue.lineAt level).toList ++ (JsonValue.quote key).toList ++ (": ").toList ++
        (value.render level).toList ++ closing) := by
  have element := Spells.element space_single spelled trailing
  have member := Spells.member (space_line_at level) (letters_escaped key.toList) space_nil element
  simpa [to_list_quote] using member

theorem spells_members {level : Nat} {closing : List Char} (trailing : Space closing)
    (key : String) (first : JsonValue) (rest : List (String × JsonValue))
    (spelled : ∀ member ∈ (key, first) :: rest,
      Spells (.value member.2) (member.2.render level).toList) :
    Spells (.members ((key, first) :: rest))
      ((JsonValue.lineAt level).toList ++ (JsonValue.quote key).toList ++ (": ").toList ++
        (first.render level).toList ++ (JsonValue.renderMembers level rest).toList ++ closing) := by
  induction rest generalizing key first with
  | nil =>
      have member := spells_member trailing key (spelled (key, first) (by simp))
      simpa [JsonValue.renderMembers] using Spells.lastMember member
  | cons second rest ih =>
      obtain ⟨name, value⟩ := second
      have member := spells_member space_nil key (spelled (key, first) (by simp))
      have others := ih name value fun member inRest =>
        spelled member (List.mem_cons_of_mem _ inRest)
      simpa [JsonValue.renderMembers] using Spells.moreMembers member others

/-- The written form of a value spells the value. -/
theorem spells_render (level : Nat) (value : JsonValue) :
    Spells (.value value) (value.render level).toList := by
  match value with
  | .number value =>
      rw [JsonValue.render]
      exact Spells.number (decimal_to_string value)
  | .text value =>
      rw [JsonValue.render, to_list_quote]
      exact Spells.text (letters_escaped value.toList)
  | .array [] =>
      rw [JsonValue.render]
      exact Spells.emptyArray space_nil
  | .array (first :: rest) =>
      have elements := spells_elements (space_line_at level) first rest
        fun value member => spells_render (level + 1) value
      simpa [JsonValue.render] using Spells.array elements
  | .object [] =>
      rw [JsonValue.render]
      exact Spells.emptyObject space_nil
  | .object ((key, first) :: rest) =>
      have members := spells_members (space_line_at level) key first rest
        fun member inMembers => spells_render (level + 1) member.2
      simpa [JsonValue.render] using Spells.object members
termination_by value
decreasing_by
  · have smaller := List.sizeOf_lt_of_mem member
    simp only [JsonValue.array.sizeOf_spec]
    omega
  · have smaller := List.sizeOf_lt_of_mem inMembers
    obtain ⟨name, value⟩ := member
    simp only [JsonValue.object.sizeOf_spec, Prod.mk.sizeOf_spec] at smaller ⊢
    omega

end JsonText
end CodeAudit
