/-!
Names of files and directories, which are bytes of any kind. They are shown as text: what is not
UTF-8 becomes a replacement character, one for each longest piece that could begin a character.
-/

namespace CodeAudit

abbrev FileName := List UInt8

namespace FileName

def ofText (text : String) : FileName :=
  text.toUTF8.data.toList

def text? (name : FileName) : Option String :=
  String.fromUTF8? ⟨name.toArray⟩

def current : FileName := ofText "."

def parent : FileName := ofText ".."

def replacement : Char := '\uFFFD'

/-- A character some bytes of which were read: its bits so far, the range of its next byte and
those of the bytes after that. -/
structure Opened where
  bits : Nat
  low : UInt8
  high : UInt8
  later : List (UInt8 × UInt8)

def opened? (byte : UInt8) : Option Opened :=
  if 0xC2 ≤ byte && byte ≤ 0xDF then some ⟨byte.toNat - 0xC0, 0x80, 0xBF, []⟩
  else if byte == 0xE0 then some ⟨0, 0xA0, 0xBF, [(0x80, 0xBF)]⟩
  else if byte == 0xED then some ⟨0xD, 0x80, 0x9F, [(0x80, 0xBF)]⟩
  else if 0xE1 ≤ byte && byte ≤ 0xEF then some ⟨byte.toNat - 0xE0, 0x80, 0xBF, [(0x80, 0xBF)]⟩
  else if byte == 0xF0 then some ⟨0, 0x90, 0xBF, [(0x80, 0xBF), (0x80, 0xBF)]⟩
  else if byte == 0xF4 then some ⟨4, 0x80, 0x8F, [(0x80, 0xBF), (0x80, 0xBF)]⟩
  else if 0xF1 ≤ byte && byte ≤ 0xF3 then
    some ⟨byte.toNat - 0xF0, 0x80, 0xBF, [(0x80, 0xBF), (0x80, 0xBF)]⟩
  else none

/-- The characters that a byte completes where none is open, and what it opens. -/
def begin (byte : UInt8) : List Char × Option Opened :=
  if byte < 0x80 then ([Char.ofNat byte.toNat], none)
  else
    match opened? byte with
    | some opened => ([], some opened)
    | none => ([replacement], none)

def Opened.continue (opened : Opened) (byte : UInt8) : List Char × Option Opened :=
  if opened.low ≤ byte && byte ≤ opened.high then
    let bits := opened.bits * 64 + (byte.toNat - 0x80)
    match opened.later with
    | [] => ([Char.ofNat bits], none)
    | (low, high) :: later => ([], some ⟨bits, low, high, later⟩)
  else
    let (characters, next) := begin byte
    (replacement :: characters, next)

def decode : Option Opened → List UInt8 → List Char
  | none, [] => []
  | some _, [] => [replacement]
  | none, byte :: bytes =>
      let (characters, next) := begin byte
      characters ++ decode next bytes
  | some opened, byte :: bytes =>
      let (characters, next) := opened.continue byte
      characters ++ decode next bytes

def shown (name : FileName) : String :=
  match name.text? with
  | some text => text
  | none => String.ofList (decode none name)

end FileName
end CodeAudit
