import CodeAudit.Regex.Escape

/-!
Classes of characters between brackets, which may be nested and combined by set operators.
-/

namespace CodeAudit
namespace Regex

open Unicode

inductive SetOperation where
  | intersection
  | difference
  | symmetricDifference

def SetOperation.apply : SetOperation → CodeSet → CodeSet → CodeSet
  | intersection => CodeSet.intersection
  | difference => CodeSet.difference
  | symmetricDifference => CodeSet.symmetricDifference

/-- What has been read of a class: the operand before the last operator, and the items since. -/
structure PartialClass where
  pending : Option (SetOperation × CodeSet × Nat) := none
  items : CodeSet := CodeSet.empty
  count : Nat := 0
  depth : Nat := 0

def PartialClass.add (held : PartialClass) (set : CodeSet) (depth : Nat) : PartialClass :=
  { held with
    items := held.items.union set
    count := held.count + 1
    depth := max held.depth depth }

def PartialClass.value (held : PartialClass) (flags : Flags) : CodeSet × Nat :=
  let depth := if held.count ≥ 2 then held.depth + 1 else held.depth
  match held.pending with
  | none => (held.items, depth)
  | some (operation, left, leftDepth) =>
      (operation.apply (flags.close left) (flags.close held.items), max leftDepth depth + 1)

def PartialClass.operator (held : PartialClass) (flags : Flags) (operation : SetOperation) :
    PartialClass :=
  let (set, depth) := held.value flags
  { pending := some (operation, set, depth) }

def asciiClass? (text : List Char) : Option ((CodeSet × Bool) × List Char) :=
  match text with
  | ':' :: rest =>
      let (negated, rest) :=
        match rest with
        | '^' :: after => (true, after)
        | _ => (false, rest)
      match rest.dropWhile (· != ':') with
      | ':' :: ']' :: after =>
          (asciiNamed? (String.ofList (rest.takeWhile (· != ':')))).map fun set =>
            ((set, negated), after)
      | _ => none
  | _ => none

def readClassAtom (flags : Flags) (text : List Char) : Except RegexError (Atom × List Char) :=
  match text with
  | [] => .error .badClass
  | '\\' :: rest => readEscape flags rest
  | character :: rest => .ok (.literal character, rest)

def Flags.classLiteral (flags : Flags) (character : Char) : Except RegexError Nat :=
  if flags.unicode || character.toNat < 0x80 then .ok character.toNat else .error .notText

def readClassItem (flags : Flags) (text : List Char) :
    Except RegexError (CodeSet × List Char) := do
  let (first, rest) ← readClassAtom flags text
  let rest := flags.skip rest
  let isRange :=
    match rest with
    | '-' :: _ =>
        let after := (flags.next rest).head?
        after != some ']' && after != some '-'
    | _ => false
  if rest.isEmpty then
    throw .badClass
  if isRange then
    let (last, after) ← readClassAtom flags (flags.next rest)
    match first, last with
    | .literal low, .literal high =>
        let low ← flags.classLiteral low
        let high ← flags.classLiteral high
        if high < low then
          throw .badRange
        return (⟨[(low, high)]⟩, after)
    | _, _ => throw .badRange
  else
    match first with
    | .literal character => return (CodeSet.single (← flags.classLiteral character), rest)
    | .set members => return (members, rest)
    | .look _ => throw .badClass

/-- The hyphens, or else the closing bracket, that stand for themselves at the front of a class. -/
def leadingItems (flags : Flags) : Nat → PartialClass → List Char → PartialClass × List Char
  | 0, held, text => (held, text)
  | fuel + 1, held, text =>
      match text with
      | '-' :: _ => leadingItems flags fuel (held.add (CodeSet.ofChar '-') 0) (flags.next text)
      | ']' :: _ =>
          if held.count == 0 then (held.add (CodeSet.ofChar ']') 0, flags.next text)
          else (held, text)
      | _ => (held, text)

def openClass (flags : Flags) (text : List Char) : Bool × PartialClass × List Char :=
  let text := flags.skip text
  let (negated, text) :=
    match text with
    | '^' :: _ => (true, flags.next text)
    | _ => (false, text)
  let (held, text) := leadingItems flags (text.length + 1) {} text
  (negated, held, text)

def readClass (flags : Flags) :
    Nat → Bool → PartialClass → List Char → Except RegexError ((CodeSet × Nat) × List Char)
  | 0, _, _, _ => .error .badClass
  | fuel + 1, negated, held, text =>
      match flags.skip text with
      | [] => .error .badClass
      | '[' :: rest =>
          match asciiClass? rest with
          | some ((set, setNegated), after) => do
              let set ← flags.finish setNegated set
              readClass flags fuel negated (held.add set 0) after
          | none => do
              let (innerNegated, inner, after) := openClass flags rest
              let ((set, depth), after) ← readClass flags fuel innerNegated inner after
              readClass flags fuel negated (held.add set depth) after
      | ']' :: rest => do
          let (set, depth) := held.value flags
          return ((← flags.finish negated set, depth + 1), rest)
      | '&' :: '&' :: rest => readClass flags fuel negated (held.operator flags .intersection) rest
      | '-' :: '-' :: rest => readClass flags fuel negated (held.operator flags .difference) rest
      | '~' :: '~' :: rest =>
          readClass flags fuel negated (held.operator flags .symmetricDifference) rest
      | characters => do
          let (set, rest) ← readClassItem flags characters
          readClass flags fuel negated (held.add set 0) rest

end Regex
end CodeAudit
