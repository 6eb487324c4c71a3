/-!
JSON documents and their layout: two spaces for each level, one member a line, and no space inside
empty brackets.
-/

namespace CodeAudit

inductive JsonValue where
  | number (value : Nat)
  | text (value : String)
  | array (members : List JsonValue)
  | object (members : List (String × JsonValue))

namespace JsonValue

def hexDigits (code : Nat) : List Char :=
  let digits := Nat.toDigits 16 code
  List.replicate (4 - digits.length) '0' ++ digits

def escapeCharacter (character : Char) : List Char :=
  match character with
  | '"' => ['\\', '"']
  | '\\' => ['\\', '\\']
  | '\x08' => ['\\', 'b']
  | '\x0c' => ['\\', 'f']
  | '\n' => ['\\', 'n']
  | '\r' => ['\\', 'r']
  | '\t' => ['\\', 't']
  | _ =>
      if character.toNat < 0x20 then ['\\', 'u'] ++ hexDigits character.toNat else [character]

def quote (text : String) : String :=
  String.ofList (['"'] ++ text.toList.flatMap escapeCharacter ++ ['"'])

def indent (level : Nat) : String :=
  String.ofList (List.replicate (2 * level) ' ')

def lineAt (level : Nat) : String :=
  "\n" ++ indent level

mutual

def render (level : Nat) : JsonValue → String
  | number value => toString value
  | text value => quote value
  | array [] => "[]"
  | array (first :: rest) =>
      "[" ++ lineAt (level + 1) ++ render (level + 1) first ++ renderItems (level + 1) rest ++
        lineAt level ++ "]"
  | object [] => "\x7b\x7d"
  | object ((key, value) :: rest) =>
      "\x7b" ++ lineAt (level + 1) ++ quote key ++ ": " ++ render (level + 1) value ++
        renderMembers (level + 1) rest ++ lineAt level ++ "\x7d"

def renderItems (level : Nat) : List JsonValue → String
  | [] => ""
  | item :: rest => "," ++ lineAt level ++ render level item ++ renderItems level rest

def renderMembers (level : Nat) : List (String × JsonValue) → String
  | [] => ""
  | (key, value) :: rest =>
      "," ++ lineAt level ++ quote key ++ ": " ++ render level value ++ renderMembers level rest

end

end JsonValue
end CodeAudit
