import CodeAudit.Clone.Digest
import CodeAudit.Unicode.Property
import Mathlib.Data.List.Forall2

/-!
What the normal form of a text tells: the words of every line that is not blank, and nothing else of
its layout. Lines and words are described by relations, apart from the functions that find them. The
normal form has one layout with the text it comes from, so it is its own normal form, two texts have
the same normal form exactly where they have the same layout, and its lines are as many as the lines
of the text that are not blank.
-/

namespace CodeAudit
namespace Text

/-- The property White_Space, by the table of the standard. -/
def isSpace (character : Char) : Bool :=
  Unicode.spaceCharacters.contains character

theorem space_characters_eq : Unicode.spaceCharacters =
    ⟨[(0x09, 0x0D), (0x20, 0x20), (0x85, 0x85), (0xA0, 0xA0), (0x1680, 0x1680), (0x2000, 0x200A),
      (0x2028, 0x2029), (0x202F, 0x202F), (0x205F, 0x205F), (0x3000, 0x3000)]⟩ := by
  decide +kernel

theorem is_space_eq (character : Char) : isSpace character = isBlank character := by
  rw [isSpace, space_characters_eq, Bool.eq_iff_iff]
  simp only [Unicode.CodeSet.contains, Unicode.CodeSet.containsCode, isBlank, List.any_cons,
    List.any_nil, Bool.or_eq_true, Bool.and_eq_true, decide_eq_true_eq, beq_iff_eq,
    Bool.false_eq_true, or_false]
  omega

/-- A text is cut into lines: a line ends at a line feed or at a carriage return with a line feed,
and what follows the last of these is a line if there is anything. -/
inductive Lined : List Char → List (List Char) → Prop where
  | empty : Lined [] []
  | last {line : List Char} (more : line ≠ []) (within : '\n' ∉ line) : Lined line [line]
  | feed {line rest : List Char} {others : List (List Char)} (within : '\n' ∉ line)
      (noReturn : line.getLast? ≠ some '\r') (lined : Lined rest others) :
      Lined (line ++ '\n' :: rest) (line :: others)
  | returnFeed {line rest : List Char} {others : List (List Char)} (within : '\n' ∉ line)
      (lined : Lined rest others) : Lined (line ++ '\r' :: '\n' :: rest) (line :: others)

/-- A line is cut into words: spaces are left out, and a word goes on to the next space. -/
inductive Worded : List Char → List (List Char) → Prop where
  | empty : Worded [] []
  | space {character : Char} {rest : List Char} {others : List (List Char)}
      (isSpace : isSpace character = true) (worded : Worded rest others) :
      Worded (character :: rest) others
  | word {word rest : List Char} {others : List (List Char)} (more : word ≠ [])
      (solid : ∀ character ∈ word, isSpace character = false)
      (stops : ∀ character ∈ rest.head?, isSpace character = true) (worded : Worded rest others) :
      Worded (word ++ rest) (word :: others)

/-- The lines of a text that are not blank, each by its words. -/
def Layout (text : List Char) (content : List (List (List Char))) : Prop :=
  ∃ all, Lined text all ∧
    List.Forall₂ Worded (all.filter fun line => !line.all isSpace) content

section Lines

theorem lines_cons {character : Char} {rest line : List Char} {others : List (List Char)}
    (plain : character ≠ '\n') (noEnd : character = '\r' → rest.head? ≠ some '\n')
    (found : lines rest = line :: others) :
    lines (character :: rest) = (character :: line) :: others := by
  have noReturn : ∀ later, character = '\r' → rest = '\n' :: later → False := by
    intro later isReturn isFeed
    apply noEnd isReturn
    rw [isFeed]
    rfl
  rw [lines.eq_4 character rest plain noReturn, found]

theorem lines_append {line ending rest : List Char} (within : '\n' ∉ line)
    (ends : lines (ending ++ rest) = [] :: lines rest)
    (noEnd : line.getLast? = some '\r' → (ending ++ rest).head? ≠ some '\n') :
    lines (line ++ ending ++ rest) = line :: lines rest := by
  induction line with
  | nil => simpa using ends
  | cons character line ih =>
      simp only [List.mem_cons, not_or] at within
      rw [List.cons_append, List.cons_append]
      apply lines_cons (Ne.symm within.1)
      · intro isReturn
        cases line with
        | nil => simpa using noEnd (by simp [isReturn])
        | cons next line =>
            have different := Ne.symm (List.ne_of_not_mem_cons within.2)
            simpa using different
      · apply ih within.2
        intro last
        exact noEnd (by simp [List.getLast?_cons, last])

theorem lines_of_within {line : List Char} (more : line ≠ []) (within : '\n' ∉ line) :
    lines line = [line] := by
  induction line with
  | nil => exact absurd rfl more
  | cons character line ih =>
      simp only [List.mem_cons, not_or] at within
      cases line with
      | nil =>
          have plain := Ne.symm within.1
          rw [lines.eq_4 character [] plain (by simp)]
          rfl
      | cons next line =>
          have different := Ne.symm (List.ne_of_not_mem_cons within.2)
          exact lines_cons (Ne.symm within.1) (by simp [different]) (ih (by simp) within.2)

theorem lines_of_lined {text : List Char} {all : List (List Char)} (lined : Lined text all) :
    lines text = all := by
  induction lined with
  | empty => rfl
  | last more within => exact lines_of_within more within
  | @feed line rest others within noReturn _ ih =>
      have cut : lines (line ++ ['\n'] ++ rest) = line :: lines rest := by
        apply lines_append within
        · simp [lines]
        · exact fun last => absurd last noReturn
      simpa [ih] using cut
  | @returnFeed line rest others within _ ih =>
      have cut : lines (line ++ ['\r', '\n'] ++ rest) = line :: lines rest := by
        apply lines_append within
        · simp [lines]
        · simp
      simpa [ih] using cut

theorem exists_lined (text : List Char) : ∃ all, Lined text all := by
  induction size : text.length using Nat.strongRecOn generalizing text with
  | ind size ih =>
      by_cases feeds : '\n' ∈ text
      · obtain ⟨line, rest, rfl, within⟩ := List.eq_append_cons_of_mem feeds
        obtain ⟨others, lined⟩ := ih rest.length (by simp at size; omega) rest rfl
        by_cases returns : line.getLast? = some '\r'
        · obtain ⟨before, rfl⟩ := List.getLast?_eq_some_iff.mp returns
          refine ⟨before :: others, ?_⟩
          rw [List.append_assoc, List.singleton_append]
          exact Lined.returnFeed (fun member => within (by simp [member])) lined
        · exact ⟨line :: others, Lined.feed within returns lined⟩
      · by_cases more : text = []
        · rw [more]
          exact ⟨[], Lined.empty⟩
        · exact ⟨[text], Lined.last more feeds⟩

theorem lined_iff {text : List Char} {all : List (List Char)} :
    Lined text all ↔ lines text = all := by
  constructor
  · exact lines_of_lined
  · rintro rfl
    obtain ⟨all, lined⟩ := exists_lined text
    rwa [lines_of_lined lined]

end Lines

section Words

theorem words_space {character : Char} (rest : List Char) (blank : isBlank character = true) :
    words (character :: rest) = words rest := by
  have cut := List.splitOnP_append_cons [] rest blank
  simp only [List.nil_append, List.splitOnP_nil] at cut
  simp [words, cut]

theorem words_word {word rest : List Char} (more : word ≠ [])
    (solid : ∀ character ∈ word, isBlank character = false)
    (stops : ∀ character ∈ rest.head?, isBlank character = true) :
    words (word ++ rest) = word :: words rest := by
  have whole := List.splitOnP_eq_singleton solid
  cases rest with
  | nil => simp [words, whole, more]
  | cons character rest =>
      have blank := stops character (by simp)
      rw [words_space rest blank, words, List.splitOnP_append_cons word rest blank, whole]
      simp [words, more]

theorem words_of_worded {line : List Char} {all : List (List Char)} (worded : Worded line all) :
    words line = all := by
  induction worded with
  | empty => simp [words]
  | space space _ ih =>
      rw [is_space_eq] at space
      rw [words_space _ space, ih]
  | word more solid stops _ ih =>
      simp only [is_space_eq] at solid stops
      rw [words_word more solid stops, ih]

theorem exists_worded (line : List Char) : ∃ all, Worded line all := by
  induction line with
  | nil => exact ⟨[], Worded.empty⟩
  | cons character rest ih =>
      obtain ⟨others, worded⟩ := ih
      by_cases space : isSpace character = true
      · exact ⟨others, Worded.space space worded⟩
      · rw [Bool.not_eq_true] at space
        by_cases stops : ∀ next ∈ rest.head?, isSpace next = true
        · have alone : Worded ([character] ++ rest) ([character] :: others) :=
            Worded.word (by simp) (by simpa using space) stops worded
          exact ⟨[character] :: others, alone⟩
        · -- The rest begins with a word, which grows by the character.
          cases worded with
          | empty => simp at stops
          | space isSpace _ => simp [isSpace] at stops
          | @word word rest others more solid wordStops worded =>
              have grown : Worded ((character :: word) ++ rest) ((character :: word) :: others) :=
                Worded.word (by simp) (by simpa [space] using solid) wordStops worded
              exact ⟨(character :: word) :: others, grown⟩

theorem worded_iff {line : List Char} {all : List (List Char)} :
    Worded line all ↔ words line = all := by
  constructor
  · exact words_of_worded
  · rintro rfl
    obtain ⟨all, worded⟩ := exists_worded line
    rwa [words_of_worded worded]

theorem Worded.solid_of_mem {line word : List Char} {all : List (List Char)}
    (worded : Worded line all) (member : word ∈ all) :
    word ≠ [] ∧ ∀ character ∈ word, isSpace character = false := by
  induction worded with
  | empty => cases member
  | space _ _ ih => exact ih member
  | word more solid _ _ ih =>
      rcases List.mem_cons.mp member with same | later
      · rw [same]
        exact ⟨more, solid⟩
      · exact ih later

theorem worded_nil_iff {line : List Char} : Worded line [] ↔ line.all isSpace = true := by
  constructor
  · intro worded
    generalize none : ([] : List (List Char)) = all at worded
    induction worded with
    | empty => rfl
    | space space _ ih => simpa [space] using ih none
    | word => cases none
  · intro spaces
    induction line with
    | nil => exact Worded.empty
    | cons character rest ih =>
        rw [List.all_cons, Bool.and_eq_true] at spaces
        exact Worded.space spaces.1 (ih spaces.2)

end Words

theorem word_lines_eq (text : List Char) :
    wordLines text = ((lines text).filter fun line => !line.all isSpace).map words := by
  rw [wordLines, List.filter_map]
  apply congrArg
  apply List.filter_congr
  intro line _
  have blank : (words line).isEmpty = line.all isSpace := by
    rw [Bool.eq_iff_iff, List.isEmpty_iff, ← worded_iff]
    exact worded_nil_iff
  rw [Function.comp_apply, blank]

theorem layout_iff {text : List Char} {content : List (List (List Char))} :
    Layout text content ↔ wordLines text = content := by
  have byWords : Worded = fun line all => words line = all := by
    funext line all
    exact propext worded_iff
  have mapped := @List.forall₂_map_left_iff _ _ _ Eq words
    ((lines text).filter fun line => !line.all isSpace) content
  rw [List.forall₂_eq_eq_eq] at mapped
  simp only [Layout, lined_iff, exists_eq_left', byWords]
  rw [word_lines_eq, mapped]

section Joined

theorem worded_intercalate {all : List (List Char)}
    (solid : ∀ word ∈ all, word ≠ [] ∧ ∀ character ∈ word, isSpace character = false) :
    Worded ([' '].intercalate all) all := by
  induction all with
  | nil => exact Worded.empty
  | cons word rest ih =>
      have ⟨more, noSpace⟩ := solid word (by simp)
      have worded := ih fun other member => solid other (by simp [member])
      cases rest with
      | nil =>
          have alone : Worded (word ++ []) [word] := Worded.word more noSpace (by simp) worded
          simpa using alone
      | cons next rest =>
          have spaced : isSpace ' ' = true := by decide +kernel
          rw [List.intercalate_cons_cons, List.append_assoc]
          apply Worded.word more noSpace
          · simpa using spaced
          · exact Worded.space spaced worded

theorem lined_intercalate {all : List (List Char)}
    (plain : ∀ line ∈ all, line ≠ [] ∧ '\n' ∉ line ∧ '\r' ∉ line) :
    Lined (['\n'].intercalate all) all := by
  induction all with
  | nil => exact Lined.empty
  | cons line rest ih =>
      have ⟨more, within, noReturn⟩ := plain line (by simp)
      have lined := ih fun other member => plain other (by simp [member])
      cases rest with
      | nil => simpa using Lined.last more within
      | cons next rest =>
          rw [List.intercalate_cons_cons, List.append_assoc]
          apply Lined.feed within
          · intro last
            exact noReturn (List.mem_of_getLast? last)
          · exact lined

theorem eq_or_mem_of_mem_intercalate {character separator : Char} {all : List (List Char)}
    (member : character ∈ [separator].intercalate all) :
    character = separator ∨ ∃ part ∈ all, character ∈ part := by
  induction all with
  | nil => simp at member
  | cons part rest ih =>
      cases rest with
      | nil => exact Or.inr ⟨part, by simp, by simpa using member⟩
      | cons next rest =>
          rw [List.intercalate_cons_cons, List.mem_append, List.mem_append,
            List.mem_singleton] at member
          rcases member with (inPart | same) | later
          · exact Or.inr ⟨part, by simp, inPart⟩
          · exact Or.inl same
          · rcases ih later with same | ⟨other, isPart, inOther⟩
            · exact Or.inl same
            · exact Or.inr ⟨other, by simp [isPart], inOther⟩

variable {all : List (List Char)}
  (solid : ∀ word ∈ all, word ≠ [] ∧ ∀ character ∈ word, isSpace character = false)

include solid

theorem not_mem_intercalate {character : Char} (space : isSpace character = true)
    (different : character ≠ ' ') : character ∉ [' '].intercalate all := by
  intro member
  rcases eq_or_mem_of_mem_intercalate member with same | ⟨word, isWord, inWord⟩
  · exact different same
  · have noSpace := (solid word isWord).2 character inWord
    rw [space] at noSpace
    cases noSpace

theorem intercalate_not_blank (more : all ≠ []) :
    ([' '].intercalate all).all isSpace = false := by
  rw [← Bool.not_eq_true, ← worded_nil_iff]
  intro worded
  exact more (by rw [← words_of_worded (worded_intercalate solid), words_of_worded worded])

theorem intercalate_plain (more : all ≠ []) : [' '].intercalate all ≠ [] ∧
    '\n' ∉ [' '].intercalate all ∧ '\r' ∉ [' '].intercalate all := by
  refine ⟨?_, ?_, ?_⟩
  · intro empty
    have notBlank := intercalate_not_blank solid more
    rw [empty] at notBlank
    cases notBlank
  · exact not_mem_intercalate solid (by decide +kernel) (by decide)
  · exact not_mem_intercalate solid (by decide +kernel) (by decide)

end Joined

section Normal

variable {text : List Char} {line : List (List Char)} (member : line ∈ wordLines text)

include member

theorem word_line_ne_nil : line ≠ [] := by
  simpa using (List.mem_filter.mp member).2

theorem word_line_solid :
    ∀ word ∈ line, word ≠ [] ∧ ∀ character ∈ word, isSpace character = false := by
  obtain ⟨source, _, same⟩ := List.mem_map.mp (List.mem_of_mem_filter member)
  intro word isWord
  exact (worded_iff.mpr same).solid_of_mem isWord

end Normal

theorem lined_normalize (text : List Char) :
    Lined (normalize text) ((wordLines text).map [' '].intercalate) := by
  apply lined_intercalate
  intro line isLine
  obtain ⟨content, member, rfl⟩ := List.mem_map.mp isLine
  exact intercalate_plain (word_line_solid member) (word_line_ne_nil member)

theorem layout_normalize (text : List Char) : Layout (normalize text) (wordLines text) := by
  refine ⟨_, lined_normalize text, ?_⟩
  have noneBlank : ((wordLines text).map [' '].intercalate).filter
      (fun line => !line.all isSpace) = (wordLines text).map [' '].intercalate := by
    apply List.filter_eq_self.mpr
    intro line isLine
    obtain ⟨content, member, rfl⟩ := List.mem_map.mp isLine
    have notBlank := intercalate_not_blank (word_line_solid member) (word_line_ne_nil member)
    rw [notBlank, Bool.not_false]
  rw [noneBlank, List.forall₂_map_left_iff, List.forall₂_same]
  intro content member
  exact worded_intercalate (word_line_solid member)

theorem word_lines_normalize (text : List Char) : wordLines (normalize text) = wordLines text :=
  layout_iff.mp (layout_normalize text)

theorem normalize_eq_iff {left right : List Char} :
    normalize left = normalize right ↔ wordLines left = wordLines right := by
  constructor
  · intro same
    rw [← word_lines_normalize left, same, word_lines_normalize right]
  · intro same
    rw [normalize, same, normalize]

theorem normalize_normalize (text : List Char) : normalize (normalize text) = normalize text :=
  normalize_eq_iff.mpr (word_lines_normalize text)

theorem significant_lines_eq (text : List Char) :
    significantLines text = ((lines text).filter fun line => !line.all isSpace).length := by
  rw [significantLines, lines_of_lined (lined_normalize text), List.length_map, word_lines_eq,
    List.length_map]

/-- Every text has one layout. The normal form tells it, and tells nothing else: texts of one layout
have one normal form, which is its own normal form. It has as many lines as the text has lines that
are not blank, and that is the number of lines that the digest of a unit records. -/
theorem normal_form_tells_layout (left right : String) :
    (∃! content, Layout left.toList content) ∧
      (normalForm left = normalForm right ↔
        ∃ content, Layout left.toList content ∧ Layout right.toList content) ∧
      normalForm (normalForm left) = normalForm left ∧
      ∃ all, Lined left.toList all ∧
        lineCount (normalForm left) = (all.filter fun line => !line.all isSpace).length ∧
        ∀ unit : SourceUnit, unit.source = left →
          (UnitDigest.ofUnit unit).significantLines = lineCount (normalForm left) := by
  have counted : lineCount (normalForm left) = significantLines left.toList := by
    rw [lineCount, normalForm, String.toList_ofList, significantLines]
  refine ⟨?_, ?_, ?_, lines left.toList, lined_iff.mpr rfl, ?_, ?_⟩
  · refine ⟨wordLines left.toList, layout_iff.mpr rfl, ?_⟩
    intro content layout
    exact (layout_iff.mp layout).symm
  · rw [normalForm, normalForm, String.ofList_inj, normalize_eq_iff]
    simp only [layout_iff, exists_eq_left']
    exact eq_comm
  · rw [normalForm, normalForm, String.toList_ofList, normalize_normalize]
  · rw [counted, significant_lines_eq]
  · rintro unit rfl
    rw [counted]
    rfl

-- A lone carriage return and a next-line character part words, and no lines.
example : normalize "a\u0085b\r\n \r\n\tc\rd\r".toList = "a b\nc d".toList := by
  decide +kernel

end Text
end CodeAudit
