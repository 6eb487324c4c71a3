import CodeAudit.Yaml.Token

/-!
The nodes of a YAML document, read from its tokens by recursive descent. Anchors and aliases are
texts at first and numbers once the aliases have been resolved.
-/

namespace CodeAudit
namespace Yaml

inductive Node (Name : Type) where
  | alias (target : Name)
  | scalar (anchor : Option Name) (tag : Option String) (style : ScalarStyle) (text : String)
  | sequence (anchor : Option Name) (items : List (Node Name))
  | mapping (anchor : Option Name) (entries : List (Node Name × Node Name))

namespace Node

def absent {Name : Type} : Node Name :=
  .scalar none none .plain ""

/-- The tags that each handle is short for. -/
abbrev Handles := List (String × String)

def defaultHandles : Handles :=
  [("!", "!"), ("!!", "tag:yaml.org,2002:")]

def expandTag (handles : Handles) (handle suffix : String) : Except YamlError String :=
  if handle.isEmpty then
    .ok suffix
  else
    match handles.lookup handle with
    | some target => .ok (target ++ suffix)
    | none => .error .unknownTagHandle

/-- Reads an anchor and a tag, either of which may come first and either of which may be missing. -/
def properties (handles : Handles) :
    List Token → Except YamlError (Option String × Option String × List Token)
  | .anchor name :: .tag handle suffix :: rest => do
      return (some name, some (← expandTag handles handle suffix), rest)
  | .tag handle suffix :: .anchor name :: rest => do
      return (some name, some (← expandTag handles handle suffix), rest)
  | .anchor name :: rest => .ok (some name, none, rest)
  | .tag handle suffix :: rest => do
      return (none, some (← expandTag handles handle suffix), rest)
  | rest => .ok (none, none, rest)

/-- Where a node may stand: inside brackets, in a block, or in a block whose sequences need not be
indented. -/
inductive Context where
  | flow
  | block
  | compact
deriving DecidableEq, Repr

def endsBlockItem : List Token → Bool
  | .blockEntry :: _ | .blockEnd :: _ => true
  | _ => false

def endsBlockField : List Token → Bool
  | .key :: _ | .value :: _ | .blockEnd :: _ => true
  | _ => false

def endsCompactItem (tokens : List Token) : Bool :=
  endsBlockItem tokens || endsBlockField tokens

def endsFlowPair (close : Token) : List Token → Bool
  | token :: _ => token == .flowEntry || token == close
  | [] => false

def endsFlowKey (close : Token) : List Token → Bool
  | token :: _ => token == .value || token == .flowEntry || token == close
  | [] => false

/-- Passes the comma before any item but the first; the last item may have one behind it. -/
def separated (isFirst : Bool) (close : Token) : List Token → Except YamlError (List Token)
  | .flowEntry :: rest => if isFirst then .error .unexpectedToken else .ok rest
  | token :: rest =>
      if isFirst || token == close then .ok (token :: rest) else .error .unexpectedToken
  | [] => .error .unexpectedToken

mutual

def read (handles : Handles) (context : Context) (tokens : List Token) :
    Nat → Except YamlError (Node String × List Token)
  | 0 => .error .unexpectedToken
  | fuel + 1 =>
      match tokens with
      | .alias name :: rest => .ok (.alias name, rest)
      | _ => do
          let (anchor, tag, rest) ← properties handles tokens
          match context, rest with
          | .compact, .blockEntry :: _ =>
              let (items, rest) ← readCompactItems handles rest fuel
              return (.sequence anchor items, rest)
          | _, .scalar style text :: rest => return (.scalar anchor tag style text, rest)
          | _, .flowSequenceStart :: rest =>
              let (items, rest) ← readFlowItems handles true rest fuel
              return (.sequence anchor items, rest)
          | _, .flowMappingStart :: rest =>
              let (entries, rest) ← readFlowEntries handles true rest fuel
              return (.mapping anchor entries, rest)
          | _, rest =>
              match context != .flow, rest with
              | true, .blockSequenceStart :: rest =>
                  let (items, rest) ← readItems handles rest fuel
                  return (.sequence anchor items, rest)
              | true, .blockMappingStart :: rest =>
                  let (entries, rest) ← readEntries handles rest fuel
                  return (.mapping anchor entries, rest)
              | _, rest =>
                  if anchor.isSome || tag.isSome then
                    return (.scalar anchor tag .plain "", rest)
                  else
                    throw .unexpectedToken

def readOr (handles : Handles) (context : Context) (isAbsent : Bool) (tokens : List Token) :
    Nat → Except YamlError (Node String × List Token)
  | 0 => .error .unexpectedToken
  | fuel + 1 => if isAbsent then .ok (absent, tokens) else read handles context tokens fuel

def readItems (handles : Handles) (tokens : List Token) :
    Nat → Except YamlError (List (Node String) × List Token)
  | 0 => .error .unexpectedToken
  | fuel + 1 =>
      match tokens with
      | .blockEntry :: rest => do
          let (item, rest) ← readOr handles .block (endsBlockItem rest) rest fuel
          let (items, rest) ← readItems handles rest fuel
          return (item :: items, rest)
      | .blockEnd :: rest => .ok ([], rest)
      | _ => .error .unexpectedToken

/-- Reads the items of a block sequence that is not indented, as long as there are any. -/
def readCompactItems (handles : Handles) (tokens : List Token) :
    Nat → Except YamlError (List (Node String) × List Token)
  | 0 => .error .unexpectedToken
  | fuel + 1 =>
      match tokens with
      | .blockEntry :: rest => do
          let (item, rest) ← readOr handles .block (endsCompactItem rest) rest fuel
          let (items, rest) ← readCompactItems handles rest fuel
          return (item :: items, rest)
      | _ => .ok ([], tokens)

def readEntries (handles : Handles) (tokens : List Token) :
    Nat → Except YamlError (List (Node String × Node String) × List Token)
  | 0 => .error .unexpectedToken
  | fuel + 1 =>
      match tokens with
      | .key :: rest => do
          let (key, rest) ← readOr handles .compact (endsBlockField rest) rest fuel
          let (value, rest) ←
            match rest with
            | .value :: rest => readOr handles .compact (endsBlockField rest) rest fuel
            | _ => .ok (absent, rest)
          let (entries, rest) ← readEntries handles rest fuel
          return ((key, value) :: entries, rest)
      | .blockEnd :: rest => .ok ([], rest)
      | _ => .error .unexpectedToken

/-- Reads the items of a sequence in brackets, with the commas between them. An item may be a
mapping of one entry. -/
def readFlowItems (handles : Handles) (isFirst : Bool) (tokens : List Token) :
    Nat → Except YamlError (List (Node String) × List Token)
  | 0 => .error .unexpectedToken
  | fuel + 1 => do
      let rest ← separated isFirst .flowSequenceEnd tokens
      match rest with
      | .flowSequenceEnd :: rest => return ([], rest)
      | .key :: rest =>
          let keyIsAbsent := endsFlowKey .flowSequenceEnd rest
          let (key, rest) ← readOr handles .flow keyIsAbsent rest fuel
          let rest := if keyIsAbsent then rest.drop 1 else rest
          let (value, rest) ←
            match rest with
            | .value :: rest =>
                readOr handles .flow (endsFlowPair .flowSequenceEnd rest) rest fuel
            | _ => .ok (absent, rest)
          let (items, rest) ← readFlowItems handles false rest fuel
          return (.mapping none [(key, value)] :: items, rest)
      | _ =>
          let (item, rest) ← read handles .flow rest fuel
          let (items, rest) ← readFlowItems handles false rest fuel
          return (item :: items, rest)

def readFlowEntries (handles : Handles) (isFirst : Bool) (tokens : List Token) :
    Nat → Except YamlError (List (Node String × Node String) × List Token)
  | 0 => .error .unexpectedToken
  | fuel + 1 => do
      let rest ← separated isFirst .flowMappingEnd tokens
      match rest with
      | .flowMappingEnd :: rest => return ([], rest)
      | .key :: rest =>
          let (key, rest) ← readOr handles .flow (endsFlowKey .flowMappingEnd rest) rest fuel
          let (value, rest) ←
            match rest with
            | .value :: rest =>
                readOr handles .flow (endsFlowPair .flowMappingEnd rest) rest fuel
            | _ => .ok (absent, rest)
          let (entries, rest) ← readFlowEntries handles false rest fuel
          return ((key, value) :: entries, rest)
      | _ =>
          let (key, rest) ← read handles .flow rest fuel
          let (entries, rest) ← readFlowEntries handles false rest fuel
          return ((key, absent) :: entries, rest)

end

end Node
end Yaml
end CodeAudit
