import CodeAudit.Fingerprint
import CodeAudit.Source.Routine
import CodeAudit.Text.NormalForm

/-!
Digests: all that the search for duplicates keeps of a unit. A statement is reduced to a hash of
its tokens, a unit to the hash of its normal form and the statements of its routines.
-/

namespace CodeAudit

structure StatementDigest where
  hash : Fingerprint
  tokens : Nat
  startLine : Nat
  endLine : Nat
deriving DecidableEq

structure RoutineDigest where
  statements : List StatementDigest
deriving DecidableEq

structure UnitDigest where
  path : String
  fingerprint : Fingerprint
  significantLines : Nat
  endLine : Nat
  routines : List RoutineDigest
deriving DecidableEq

namespace StatementDigest

def separator : UInt8 := 0x1F

def encode (tokens : List String) : List UInt8 :=
  [separator].intercalate (tokens.map fun token => token.toUTF8.data.toList)

def ofStatement? (unit : SourceUnit) (statement : Tree) : Option StatementDigest :=
  let tokens := unit.tokens statement
  if tokens.isEmpty then
    none
  else
    some ⟨Fingerprint.ofBytes (encode tokens), tokens.length, statement.root.startRow + 1,
      statement.root.endRow + 1⟩

end StatementDigest

def RoutineDigest.ofRoutine? (unit : SourceUnit) (routine : Routine) : Option RoutineDigest :=
  let statements := routine.statements.filterMap (StatementDigest.ofStatement? unit)
  if statements.isEmpty then none else some ⟨statements⟩

namespace UnitDigest

def ofUnit (unit : SourceUnit) : UnitDigest where
  path := unit.path
  fingerprint := Fingerprint.ofText (Text.normalForm unit.source)
  significantLines := Text.significantLines unit.source.toList
  endLine := max unit.lineCount 1
  routines := unit.routines.filterMap (RoutineDigest.ofRoutine? unit)

def le (left right : UnitDigest) : Bool :=
  left.path < right.path ||
    (left.path == right.path && left.fingerprint.le right.fingerprint)

end UnitDigest
end CodeAudit
