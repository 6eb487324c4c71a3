import CodeAudit.Clone.Digest

/-!
What the hash of a statement tells. The hashed bytes are those of the tokens joined by a separator,
and from them the pieces can be read back into which separators cut the tokens. So statements with
equal hashes have equal pieces. They have equal tokens too where no token holds the separator; where
one does, a boundary between tokens cannot be told from a separator inside one.
-/

namespace CodeAudit
namespace StatementDigest

def separatorChar : Char := Char.ofNat 0x1F

def joined (tokens : List String) : String :=
  (String.singleton separatorChar).intercalate tokens

def pieces (tokens : List String) : List (List Char) :=
  tokens.flatMap fun token => token.toList.splitOn separatorChar

theorem joined_cons (token : String) {rest : List String} (more : rest ≠ []) :
    joined (token :: rest) = token ++ String.singleton separatorChar ++ joined rest :=
  String.intercalate_cons_of_ne_nil more

theorem encode_cons (token : String) {rest : List String} (more : rest ≠ []) :
    encode (token :: rest) = token.toUTF8.data.toList ++ separator :: encode rest := by
  cases rest with
  | nil => exact absurd rfl more
  | cons next later =>
      simp only [encode, List.map_cons, List.intercalate_cons_cons, List.append_assoc]
      rfl

theorem encode_eq (tokens : List String) : encode tokens = (joined tokens).toUTF8.data.toList := by
  induction tokens with
  | nil => rfl
  | cons token rest ih =>
      by_cases more : rest = []
      · subst more
        simp [encode, joined]
      · have separatorBytes :
            (String.singleton separatorChar).toByteArray.data.toList = [separator] := by decide
        rw [encode_cons token more, joined_cons token more, ih]
        simp only [String.toUTF8_eq_toByteArray, String.toByteArray_append,
          ByteArray.toList_data_append, separatorBytes, List.append_assoc, List.singleton_append]

/-- Equal bytes are the bytes of equal texts. -/
theorem joined_eq_of_encode_eq {left right : List String} (same : encode left = encode right) :
    joined left = joined right := by
  rw [encode_eq, encode_eq] at same
  apply String.toByteArray_inj.mp
  exact ByteArray.ext (Array.toList_inj.mp same)

/-- Cutting the joined text at its separators gives the pieces of the tokens. -/
theorem split_on_joined {tokens : List String} (nonempty : tokens ≠ []) :
    (joined tokens).toList.splitOn separatorChar = pieces tokens := by
  induction tokens with
  | nil => exact absurd rfl nonempty
  | cons token rest ih =>
      by_cases more : rest = []
      · subst more
        simp [joined, pieces]
      · have cut : (token.toList ++ separatorChar :: (joined rest).toList).splitOn separatorChar =
            token.toList.splitOn separatorChar ++ (joined rest).toList.splitOn separatorChar := by
          simp only [List.splitOn_eq_splitOnP]
          exact List.splitOnP_append_cons _ _ (beq_self_eq_true separatorChar)
        rw [joined_cons token more, pieces, List.flatMap_cons]
        simp only [String.toList_append, String.toList_singleton, List.append_assoc,
          List.singleton_append]
        rw [cut, ih more]
        rfl

/-- The hashed bytes determine the pieces and are determined by them. -/
theorem encode_eq_iff {left right : List String} (leftTokens : left ≠ [])
    (rightTokens : right ≠ []) : encode left = encode right ↔ pieces left = pieces right := by
  constructor
  · intro same
    rw [← split_on_joined leftTokens, ← split_on_joined rightTokens, joined_eq_of_encode_eq same]
  · intro same
    rw [← split_on_joined leftTokens, ← split_on_joined rightTokens] at same
    have recovered : ∀ text : List Char,
        [separatorChar].intercalate (text.splitOn separatorChar) = text :=
      fun text => List.intercalate_splitOn separatorChar
    have texts : (joined left).toList = (joined right).toList := by
      rw [← recovered (joined left).toList, same, recovered]
    rw [encode_eq, encode_eq, String.toList_inj.mp texts]

/-- No token holds the separator. -/
def Unseparated (tokens : List String) : Prop :=
  ∀ token ∈ tokens, separatorChar ∉ token.toList

instance (tokens : List String) : Decidable (Unseparated tokens) :=
  inferInstanceAs (Decidable (∀ token ∈ tokens, separatorChar ∉ token.toList))

theorem pieces_of_unseparated {tokens : List String} (clean : Unseparated tokens) :
    pieces tokens = tokens.map String.toList := by
  induction tokens with
  | nil => rfl
  | cons token rest ih =>
      have whole : token.toList.splitOn separatorChar = [token.toList] := by
        rw [List.splitOn_eq_splitOnP]
        apply List.splitOnP_eq_singleton
        intro character member
        have outside := clean token List.mem_cons_self
        simpa using fun same : character = separatorChar => outside (same ▸ member)
      have others : Unseparated rest :=
        fun other member => clean other (List.mem_cons_of_mem token member)
      rw [pieces, List.flatMap_cons, whole, List.map_cons, ← ih others]
      rfl

theorem pieces_eq_iff_of_unseparated {left right : List String} (leftClean : Unseparated left)
    (rightClean : Unseparated right) : pieces left = pieces right ↔ left = right := by
  rw [pieces_of_unseparated leftClean, pieces_of_unseparated rightClean]
  exact List.map_inj_right fun _ _ => String.toList_inj.mp

theorem of_statement?_eq_some {unit : SourceUnit} {statement : Tree}
    (tokens : unit.tokens statement ≠ []) :
    ofStatement? unit statement =
      some ⟨Fingerprint.ofBytes (encode (unit.tokens statement)), (unit.tokens statement).length,
        statement.root.startRow + 1, statement.root.endRow + 1⟩ :=
  if_neg (by simpa using tokens)

/-- Statements with tokens have digests. Their hashes are equal exactly where the tokens have the
same pieces, provided the hash does not collide on the two encodings. Where no token holds the
separator, that is where the tokens are equal, and then the digests count as many. -/
theorem hash_eq_iff_pieces_eq {unit other : SourceUnit} {statement repeated : Tree}
    (tokens : unit.tokens statement ≠ []) (otherTokens : other.tokens repeated ≠ [])
    (separates : Fingerprint.ofBytes (encode (unit.tokens statement)) =
      Fingerprint.ofBytes (encode (other.tokens repeated)) →
        encode (unit.tokens statement) = encode (other.tokens repeated)) :
    ∃ digest otherDigest, ofStatement? unit statement = some digest ∧
      ofStatement? other repeated = some otherDigest ∧
      (digest.hash = otherDigest.hash ↔
        pieces (unit.tokens statement) = pieces (other.tokens repeated)) ∧
      (Unseparated (unit.tokens statement) → Unseparated (other.tokens repeated) →
        (digest.hash = otherDigest.hash ↔ unit.tokens statement = other.tokens repeated) ∧
        (digest.hash = otherDigest.hash → digest.tokens = otherDigest.tokens)) := by
  refine ⟨_, _, of_statement?_eq_some tokens, of_statement?_eq_some otherTokens, ?_⟩
  have onPieces : Fingerprint.ofBytes (encode (unit.tokens statement)) =
      Fingerprint.ofBytes (encode (other.tokens repeated)) ↔
        pieces (unit.tokens statement) = pieces (other.tokens repeated) := by
    rw [← encode_eq_iff tokens otherTokens]
    exact ⟨separates, congrArg Fingerprint.ofBytes⟩
  refine ⟨onPieces, fun clean otherClean => ?_⟩
  have onTokens := onPieces.trans (pieces_eq_iff_of_unseparated clean otherClean)
  exact ⟨onTokens, fun same => congrArg List.length (onTokens.mp same)⟩

section Samples

def sampleLeaf (kind : String) (startByte endByte : Nat) : Tree :=
  .node ⟨kind, true, false, startByte, endByte, 0, 0, []⟩ []

def sampleUnit (source : String) : SourceUnit :=
  ⟨"a.rs", ⟨"rust", ["rs"], ["function_item"]⟩, source, Tree.bare⟩

def bindingUnit : SourceUnit :=
  sampleUnit "fn f() \x7b let z = 1; \x7d"

def otherBindingUnit : SourceUnit :=
  sampleUnit "fn f() \x7b let z = 2; \x7d"

/-- The only statement of each of the two units. -/
def bindingStatement : Tree :=
  .node ⟨"let_declaration", true, false, 9, 19, 0, 0, []⟩
    [sampleLeaf "let" 9 12, sampleLeaf "identifier" 13 14, sampleLeaf "=" 15 16,
      sampleLeaf "integer_literal" 17 18, sampleLeaf ";" 18 19]

def literalUnit : SourceUnit :=
  sampleUnit "fn f() \x7b r#\"let\x1fz\x1f=\x1f1\"#; \x7d"

/-- A text literal with separators in it, which stands as a statement. -/
def literalStatement : Tree :=
  .node ⟨"expression_statement", true, false, 9, 24, 0, 0, []⟩
    [.node ⟨"raw_string_literal", true, false, 9, 23, 0, 0, []⟩ [sampleLeaf "string_content" 12 21],
      sampleLeaf ";" 23 24]

theorem binding_unit_tokens :
    bindingUnit.tokens bindingStatement = ["let", "z", "=", "1", ";"] := by
  decide +kernel

theorem other_binding_unit_tokens :
    otherBindingUnit.tokens bindingStatement = ["let", "z", "=", "2", ";"] := by
  decide +kernel

theorem literal_unit_tokens :
    literalUnit.tokens literalStatement = ["let\x1fz\x1f=\x1f1", ";"] := by
  decide +kernel

/-- Statements that differ in one token differ in their hashes. -/
theorem hash_eq_iff_pieces_eq_sample : ∃ digest otherDigest,
    ofStatement? bindingUnit bindingStatement = some digest ∧
      ofStatement? otherBindingUnit bindingStatement = some otherDigest ∧
      digest.hash ≠ otherDigest.hash := by
  have separates : Fingerprint.ofBytes (encode (bindingUnit.tokens bindingStatement)) =
      Fingerprint.ofBytes (encode (otherBindingUnit.tokens bindingStatement)) →
        encode (bindingUnit.tokens bindingStatement) =
          encode (otherBindingUnit.tokens bindingStatement) := by
    rw [binding_unit_tokens, other_binding_unit_tokens]
    decide +kernel
  obtain ⟨digest, otherDigest, made, otherMade, _, onTokens⟩ := hash_eq_iff_pieces_eq
    (by simp [binding_unit_tokens]) (by simp [other_binding_unit_tokens]) separates
  have clean : Unseparated (bindingUnit.tokens bindingStatement) := by
    rw [binding_unit_tokens]
    decide
  have otherClean : Unseparated (otherBindingUnit.tokens bindingStatement) := by
    rw [other_binding_unit_tokens]
    decide
  refine ⟨digest, otherDigest, made, otherMade, fun same => ?_⟩
  have equal := (onTokens clean otherClean).1.mp same
  simp [binding_unit_tokens, other_binding_unit_tokens] at equal

/-- A literal that holds the separator has the encoding of a binding, and so its hash, although the
tokens differ, even in number. -/
theorem separator_in_token_hides_boundary : ∃ digest otherDigest,
    ofStatement? literalUnit literalStatement = some digest ∧
      ofStatement? bindingUnit bindingStatement = some otherDigest ∧
      encode (literalUnit.tokens literalStatement) = encode (bindingUnit.tokens bindingStatement) ∧
      digest.hash = otherDigest.hash ∧
      literalUnit.tokens literalStatement ≠ bindingUnit.tokens bindingStatement ∧
      digest.tokens ≠ otherDigest.tokens := by
  have sameBytes : encode (literalUnit.tokens literalStatement) =
      encode (bindingUnit.tokens bindingStatement) := by
    rw [literal_unit_tokens, binding_unit_tokens]
    decide
  refine ⟨_, _, of_statement?_eq_some (by simp [literal_unit_tokens]),
    of_statement?_eq_some (by simp [binding_unit_tokens]), sameBytes,
    congrArg Fingerprint.ofBytes sameBytes, ?_, ?_⟩
  · rw [literal_unit_tokens, binding_unit_tokens]
    decide
  · simp [literal_unit_tokens, binding_unit_tokens]

end Samples

end StatementDigest
end CodeAudit
