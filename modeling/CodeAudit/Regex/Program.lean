import CodeAudit.Regex.Basic

/-!
Programs: a regular expression as numbered steps. A text is searched by following all threads at
once, in order of preference, so that each step is visited at most once a position.
-/

namespace CodeAudit
namespace Regex

inductive Step where
  | consume (set : Unicode.CodeSet) (next : Nat)
  | check (assertion : Look) (next : Nat)
  | choose (preferred other : Nat)
  | accept

structure Program where
  steps : Array Step
  start : Nat

abbrev Compiled := Nat × Array Step

def emit (step : Step) (steps : Array Step) : Compiled :=
  (steps.size, steps.push step)

def fork (greedy : Bool) (body exit : Nat) : Step :=
  if greedy then .choose body exit else .choose exit body

def copies (part : Nat → Array Step → Compiled) : Nat → Nat → Array Step → Compiled
  | 0, next, steps => (next, steps)
  | count + 1, next, steps =>
      let (start, steps) := part next steps
      copies part count start steps

/-- The part up to `count` times in a row, leaving to `exit` before any of them. -/
def optionals (part : Nat → Array Step → Compiled) (greedy : Bool) (exit : Nat) :
    Nat → Nat → Array Step → Compiled
  | 0, next, steps => (next, steps)
  | count + 1, next, steps =>
      let (body, steps) := part next steps
      let (start, steps) := emit (fork greedy body exit) steps
      optionals part greedy exit count start steps

/-- The part once or more, leading to `exit`: its start, and the step that repeats it. -/
def loop (part : Nat → Array Step → Compiled) (greedy : Bool) (exit : Nat)
    (steps : Array Step) : Nat × Nat × Array Step :=
  let (again, steps) := emit .accept steps
  let (body, steps) := part again steps
  (body, again, steps.setIfInBounds again (fork greedy body exit))

/-- Appends steps that match the expression and then go on at `next`. -/
def compile : Regex → Nat → Array Step → Compiled
  | empty, next, steps => (next, steps)
  | oneOf set, next, steps => emit (.consume set next) steps
  | look assertion, next, steps => emit (.check assertion next) steps
  | seq first second, next, steps =>
      let (middle, steps) := second.compile next steps
      first.compile middle steps
  | either preferred other, next, steps =>
      let (left, steps) := preferred.compile next steps
      let (right, steps) := other.compile next steps
      emit (.choose left right) steps
  | iterate least (some most) greedy body, next, steps =>
      let (rest, steps) := optionals body.compile greedy next (most - least) next steps
      copies body.compile least rest steps
  | iterate least none greedy body, next, steps =>
      let (start, again, steps) := loop body.compile greedy next steps
      match least with
      | 0 =>
          -- A body that can match nothing is entered through a step of its own, so that the
          -- thread which repeats it is not taken for the one that enters it.
          if body.matchesEmpty then emit (fork greedy start next) steps else (again, steps)
      | count + 1 => copies body.compile count start steps

def program (regex : Regex) : Program :=
  let (finish, steps) := emit .accept #[]
  let (start, steps) := regex.compile finish steps
  ⟨steps, start⟩

structure Place where
  before : Option Char
  rest : List Char
  offset : Nat

def Place.forward? (place : Place) : Option Place :=
  match place.rest with
  | [] => none
  | character :: rest => some ⟨some character, rest, place.offset + character.utf8Size⟩

structure Thread where
  step : Nat
  origin : Nat

structure Match where
  start : Nat
  stop : Place

namespace Program

/-- Follows steps that consume nothing, in order of preference, up to those that consume. -/
def follow (program : Program) (before after : Option Char) (origin : Nat) :
    Nat → Nat → Array Bool × List Thread → Array Bool × List Thread
  | 0, _, reached => reached
  | fuel + 1, step, (seen, threads) =>
      if seen.getD step true then
        (seen, threads)
      else
        let seen := seen.setIfInBounds step true
        match program.steps[step]? with
        | some (.choose preferred other) =>
            program.follow before after origin fuel other
              (program.follow before after origin fuel preferred (seen, threads))
        | some (.check assertion next) =>
            if assertion.holds before after then
              program.follow before after origin fuel next (seen, threads)
            else
              (seen, threads)
        | _ => (seen, ⟨step, origin⟩ :: threads)

/-- The threads at a place, most preferred first: those that arrive, then a new one if no match
has been found. -/
def threadsAt (program : Program) (place : Place) (arriving : List Thread) (fresh : Bool) :
    List Thread :=
  let size := program.steps.size
  let after := place.rest.head?
  let start := (Array.replicate size false, ([] : List Thread))
  let reached := arriving.foldl (fun reached thread =>
    program.follow place.before after thread.origin (size + 1) thread.step reached) start
  let reached :=
    if fresh then program.follow place.before after place.offset (size + 1) program.start reached
    else reached
  reached.2.reverse

/-- Moves the threads over the next character. A thread that accepts ends all less preferred
ones. -/
def advance (program : Program) (place : Place) :
    List Thread → Option Match → Option Match × List Thread
  | [], best => (best, [])
  | thread :: others, best =>
      match program.steps[thread.step]? with
      | some .accept => (some ⟨thread.origin, place⟩, [])
      | some (.consume set next) =>
          let (best, moved) := program.advance place others best
          if place.rest.head?.any set.contains then
            (best, ⟨next, thread.origin⟩ :: moved)
          else
            (best, moved)
      | _ => program.advance place others best

/-- The leftmost match from a place on, of those the most preferred. -/
def scan (program : Program) :
    Option Char → List Char → Nat → List Thread → Option Match → Option Match
  | before, [], offset, arriving, best =>
      let place : Place := ⟨before, [], offset⟩
      (program.advance place (program.threadsAt place arriving best.isNone) best).1
  | before, character :: rest, offset, arriving, best =>
      let place : Place := ⟨before, character :: rest, offset⟩
      let (best, moved) :=
        program.advance place (program.threadsAt place arriving best.isNone) best
      if moved.isEmpty && best.isSome then
        best
      else
        program.scan (some character) rest (offset + character.utf8Size) moved best

def find? (program : Program) (place : Place) : Option Match :=
  program.scan place.before place.rest place.offset [] none

/-- Successive matches from a place on. An empty match right where the last one ended does not
count, and the search goes on one character later. -/
def findFrom (program : Program) : Nat → Place → Option Nat → List Match
  | 0, _, _ => []
  | fuel + 1, place, lastStop =>
      match program.find? place with
      | none => []
      | some found =>
          if found.start == found.stop.offset && lastStop == some found.stop.offset then
            match place.forward? with
            | none => []
            | some later => program.findFrom fuel later none
          else
            found :: program.findFrom fuel found.stop (some found.stop.offset)

def findAll (program : Program) (text : List Char) : List (Nat × Nat) :=
  (program.findFrom (2 * text.length + 2) ⟨none, text, 0⟩ none).map fun found =>
    (found.start, found.stop.offset)

end Program
end Regex
end CodeAudit
