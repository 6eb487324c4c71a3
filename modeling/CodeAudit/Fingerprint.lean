import CodeAudit.Digest.Blake3

/-!
Fingerprints: the hashes that stand for texts, statements and runs of statements. They are
ordered by their bytes and written in hexadecimal digits.
-/

namespace CodeAudit

structure Fingerprint where
  bytes : List UInt8
deriving DecidableEq, BEq, ReflBEq, LawfulBEq, Hashable

namespace Fingerprint

def ofBytes (bytes : List UInt8) : Fingerprint :=
  ⟨Blake3.hash bytes⟩

def ofText (text : String) : Fingerprint :=
  ofBytes text.toUTF8.data.toList

instance : Inhabited Fingerprint := ⟨⟨[]⟩⟩

def hexDigit (value : Nat) : Char :=
  if value < 10 then Char.ofNat (48 + value) else Char.ofNat (87 + value)

def hex (fingerprint : Fingerprint) : String :=
  String.ofList (fingerprint.bytes.flatMap fun byte =>
    [hexDigit (byte.toNat / 16), hexDigit (byte.toNat % 16)])

/-- The leading twelve digits, which name a group of duplicates. -/
def short (fingerprint : Fingerprint) : String :=
  String.ofList (fingerprint.hex.toList.take 12)

def describe (fingerprint : Fingerprint) : String :=
  "Fingerprint(" ++ fingerprint.short ++ ")"

def le (left right : Fingerprint) : Bool :=
  decide (left.bytes ≤ right.bytes)

end Fingerprint
end CodeAudit
