import CodeAudit.Regex.Basic
import CodeAudit.Unicode.CaseFold

/-!
Flags of regular expressions, and why a text is none. A flag holds from where it is set to the end
of the enclosing group; with the flag `x`, blanks and comments between the parts are skipped.
-/

namespace CodeAudit

inductive RegexError where
  | unclosedGroup
  | unopenedGroup
  | badGroupName
  | badFlags
  | lookAround
  | nothingToRepeat
  | badRepetition
  | badEscape
  | backReference
  | badClass
  | badRange
  | unknownProperty
  | notText
  | tooDeep
  | tooLarge
deriving DecidableEq, Repr

def RegexError.message : RegexError → String
  | unclosedGroup => "unclosed group"
  | unopenedGroup => "unopened group"
  | badGroupName => "invalid capture group name"
  | badFlags => "invalid flags"
  | lookAround => "look-around is not supported"
  | nothingToRepeat => "repetition operator missing expression"
  | badRepetition => "invalid repetition count"
  | badEscape => "invalid escape sequence"
  | backReference => "backreferences are not supported"
  | badClass => "invalid character class"
  | badRange => "invalid character class range"
  | unknownProperty => "Unicode property not found"
  | notText => "pattern can match invalid UTF-8"
  | tooDeep => "exceeds the nesting limit"
  | tooLarge => "exceeds the size limit"

namespace Regex

open Unicode

structure Flags where
  ignoreCase : Bool := false
  multiLine : Bool := false
  dotMatchesFeed : Bool := false
  swapGreed : Bool := false
  unicode : Bool := true
  returnEndsLine : Bool := false
  skipsBlanks : Bool := false

/-- Skips blanks and, from `#` to the end of a line, comments. -/
def dropBlanks : Bool → List Char → List Char
  | _, [] => []
  | true, character :: rest => dropBlanks (character != '\n') rest
  | false, character :: rest =>
      if Text.isBlank character then dropBlanks false rest
      else if character == '#' then dropBlanks true rest
      else character :: rest

def Flags.skip (flags : Flags) (text : List Char) : List Char :=
  if flags.skipsBlanks then dropBlanks false text else text

def Flags.next (flags : Flags) (text : List Char) : List Char :=
  flags.skip (text.drop 1)

def Flags.close (flags : Flags) (set : CodeSet) : CodeSet :=
  if !flags.ignoreCase then set
  else if flags.unicode then set.closeCase
  else set.closeAsciiCase

/-- Adds case variants if asked for, then negates. Without Unicode a class holds bytes, of which
only those of ASCII are text. -/
def Flags.finish (flags : Flags) (negated : Bool) (set : CodeSet) : Except RegexError CodeSet :=
  let closed := flags.close set
  if flags.unicode then
    .ok (if negated then closed.complement else closed)
  else if negated || !closed.isAscii then
    .error .notText
  else
    .ok closed

def Flags.greedy (flags : Flags) (lazyMark : Bool) : Bool :=
  lazyMark == flags.swapGreed

def Flags.dot (flags : Flags) : Except RegexError Regex :=
  if !flags.unicode then .error .notText
  else if flags.dotMatchesFeed then .ok (.oneOf CodeSet.full)
  else if flags.returnEndsLine then
    .ok (.oneOf (CodeSet.complement ⟨[(0x0A, 0x0A), (0x0D, 0x0D)]⟩))
  else .ok (.oneOf (CodeSet.single 0x0A).complement)

def Flags.lineStart (flags : Flags) : Look :=
  if !flags.multiLine then .textStart
  else if flags.returnEndsLine then .feedLineStart
  else .lineStart

def Flags.lineEnd (flags : Flags) : Look :=
  if !flags.multiLine then .textEnd
  else if flags.returnEndsLine then .feedLineEnd
  else .lineEnd

def Flags.set? (flags : Flags) (letter : Char) (on : Bool) : Option Flags :=
  match letter with
  | 'i' => some { flags with ignoreCase := on }
  | 'm' => some { flags with multiLine := on }
  | 's' => some { flags with dotMatchesFeed := on }
  | 'U' => some { flags with swapGreed := on }
  | 'u' => some { flags with unicode := on }
  | 'R' => some { flags with returnEndsLine := on }
  | 'x' => some { flags with skipsBlanks := on }
  | _ => none

/-- Flags up to the colon or parenthesis that ends them, which is left in place. No letter may
stand twice, and something has to follow the minus sign. -/
def readFlags :
    Flags → List Char → Bool → List Char → Except RegexError ((Flags × Bool) × List Char)
  | _, _, _, [] => .error .badFlags
  | flags, seen, dangling, character :: rest =>
      if character == ':' || character == ')' then
        if dangling then .error .badFlags
        else .ok ((flags, !seen.isEmpty), character :: rest)
      else if seen.contains character then
        .error .badFlags
      else if character == '-' then
        readFlags flags (character :: seen) true rest
      else
        match flags.set? character (!seen.contains '-') with
        | some flags => readFlags flags (character :: seen) false rest
        | none => .error .badFlags

end Regex
end CodeAudit
