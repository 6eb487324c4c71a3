import CodeAudit.File.Name
import CodeAudit.Path
import Mathlib.Data.String.Basic
import Mathlib.Data.List.SplitOn

/-!
Names as they are shown. A name that is text is shown as that text, from which it can be read back.
Any name is shown as something, but names that are not text can be shown alike.
-/

namespace CodeAudit

namespace Path

theorem pieces_of_names {names : List String} (more : names ≠ [])
    (unslashed : ∀ name ∈ names, '/' ∉ name.toList) : pieces (ofNames names) = names := by
  have parts : ∀ part ∈ names.map String.toList, '/' ∉ part := by
    intro part member
    obtain ⟨name, isName, rfl⟩ := List.mem_map.mp member
    exact unslashed name isName
  have cut := List.splitOn_intercalate '/' parts (by simpa using more)
  rw [List.splitOn] at cut
  rw [pieces, ofNames, String.toList_intercalate]
  have slash : "/".toList = ['/'] := rfl
  rw [slash, cut, List.map_map]
  have same : (String.ofList ∘ String.toList) = id := by
    funext name
    exact String.ofList_toList
  rw [same, List.map_id]

theorem of_names_ne_empty {first : String} (more : first ≠ "") (rest : List String) :
    ofNames (first :: rest) ≠ "" := by
  intro empty
  rw [← String.toList_eq_nil_iff, ofNames, String.toList_intercalate] at empty
  cases rest with
  | nil => exact more (by simpa using empty)
  | cons second rest => simp at empty

end Path

namespace FileName

structure IsName (name : FileName) : Prop where
  nonempty : name ≠ []
  unslashed : 0x2F ∉ name

instance (name : FileName) : Decidable name.IsName :=
  decidable_of_iff (name ≠ [] ∧ 0x2F ∉ name) ⟨fun facts => ⟨facts.1, facts.2⟩,
    fun isName => ⟨isName.nonempty, isName.unslashed⟩⟩

def IsText (name : FileName) : Prop :=
  name.text?.isSome

theorem IsText.exists_text {name : FileName} (isText : name.IsText) :
    ∃ text, name.text? = some text :=
  Option.isSome_iff_exists.mp isText

theorem of_text_of_text? {name : FileName} {text : String} (read : name.text? = some text) :
    ofText text = name := by
  unfold text? String.fromUTF8? at read
  split at read
  · cases read
    rfl
  · cases read

theorem shown_of_text? {name : FileName} {text : String} (read : name.text? = some text) :
    name.shown = text := by
  rw [shown, read]

theorem slash_not_mem_text {name : FileName} {text : String} (isName : name.IsName)
    (read : name.text? = some text) : '/' ∉ text.toList := by
  intro slash
  apply isName.unslashed
  have bytes : ofText text = text.toList.flatMap String.utf8EncodeChar := by
    rw [ofText, String.toUTF8_eq_toByteArray, ← String.utf8Encode_toList]
    simp [List.utf8Encode]
  rw [← of_text_of_text? read, bytes, List.mem_flatMap]
  exact ⟨'/', slash, by decide⟩

theorem of_text_shown {name : FileName} (isText : name.IsText) : ofText name.shown = name := by
  obtain ⟨text, read⟩ := isText.exists_text
  rw [shown_of_text? read]
  exact of_text_of_text? read

theorem begin_progress (byte : UInt8) : (begin byte).1 ≠ [] ∨ (begin byte).2.isSome := by
  unfold begin
  split
  · simp
  · split <;> simp

theorem continue_progress (opened : Opened) (byte : UInt8) :
    (opened.continue byte).1 ≠ [] ∨ (opened.continue byte).2.isSome := by
  unfold Opened.continue
  split
  · dsimp only
    split <;> simp
  · simp

theorem decode_ne_nil (opened : Option Opened) (bytes : List UInt8)
    (more : opened.isSome ∨ bytes ≠ []) : decode opened bytes ≠ [] := by
  induction bytes generalizing opened with
  | nil =>
      cases opened with
      | none => simp at more
      | some opened => simp [decode]
  | cons byte bytes ih =>
      cases opened with
      | none =>
          rcases begin_progress byte with characters | opens
          · simp [decode, characters]
          · simp [decode, ih _ (Or.inl opens)]
      | some opened =>
          rcases continue_progress opened byte with characters | opens
          · simp [decode, characters]
          · simp [decode, ih _ (Or.inl opens)]

theorem shown_ne_empty {name : FileName} (more : name ≠ []) : name.shown ≠ "" := by
  cases read : name.text? with
  | some text =>
      rw [shown_of_text? read]
      rintro rfl
      exact more (of_text_of_text? read).symm
  | none =>
      rw [shown, read]
      intro empty
      exact decode_ne_nil none name (Or.inr more) (String.ofList_eq_empty_iff.mp empty)

end FileName
end CodeAudit
