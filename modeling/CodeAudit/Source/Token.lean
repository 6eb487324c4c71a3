import CodeAudit.Source.Unit

/-!
Tokens of a tree: the texts of its leaves, without those that cover nothing and those in
comments.
-/

namespace CodeAudit

def occursIn (part : List Char) : List Char → Bool
  | [] => part.isEmpty
  | character :: rest => part.isPrefixOf (character :: rest) || occursIn part rest

def isComment (kind : String) : Bool :=
  occursIn "comment".toList kind.toList

namespace Tree

def tokenLeaves : List Tree → List Node
  | [] => []
  | node given members :: rest =>
      if isComment given.kind then
        tokenLeaves rest
      else if members.isEmpty then
        if given.startByte < given.endByte then given :: tokenLeaves rest else tokenLeaves rest
      else
        tokenLeaves (members ++ rest)
termination_by stack => forestSize stack
decreasing_by
  all_goals simp only [forestSize, size, forest_size_append]
  all_goals omega

end Tree

namespace SourceUnit

def tokens (unit : SourceUnit) (tree : Tree) : List String :=
  (Tree.tokenLeaves [tree]).map unit.nodeText

end SourceUnit
end CodeAudit
