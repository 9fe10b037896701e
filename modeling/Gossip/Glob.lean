/-! Glob patterns.

A pattern is matched against a whole text. `?` stands for any character and `*` for any run of
characters, separators and leading dots included; a class in brackets stands for any character in
it, or after an exclamation mark for any other. `**` stands for any number of whole path components
and has to be a component itself.

A match goes from left to right and gives up early: when the text is used up before the pattern is,
a star that takes more of the text cannot help. So what a star comes to at the first place where it
is reached decides the match. -/
namespace Gossip

/-- A member of a class: the characters from one to another. A single one is from itself to
itself. -/
structure Glob.Range where
  first : Char
  last : Char
  deriving DecidableEq, Repr

/-- What stands for one character. -/
inductive Glob.Single where
  | char (c : Char)
  | any
  | within (ranges : List Glob.Range)
  | except (ranges : List Glob.Range)
  deriving DecidableEq, Repr

inductive Glob.Part where
  | one (single : Glob.Single)
  | anyRun
  /-- Any number of whole components. -/
  | anyComponents
  deriving DecidableEq, Repr

/-- A pattern, part by part. -/
structure Glob where
  parts : List Glob.Part
  deriving DecidableEq, Repr

namespace Glob

inductive Fault where
  | unclosedClass
  | partialComponent
  | tooManyStars
  deriving DecidableEq, Repr

/-- What is wrong with a pattern, and where. -/
structure SyntaxError where
  position : Nat
  fault : Fault
  deriving DecidableEq, Repr

namespace SyntaxError

def reason : Fault → String
  | .unclosedClass => "invalid range pattern"
  | .partialComponent => "recursive wildcards must form a single path component"
  | .tooManyStars => "wildcards are either regular `*` or recursive `**`"

def message (error : SyntaxError) : String :=
  s!"Pattern syntax error near position {error.position}: {reason error.fault}"

end SyntaxError

/-! ### Reading a pattern -/

/-- The ranges of a class. -/
def ranges : List Char → List Range
  | first :: '-' :: last :: rest => ⟨first, last⟩ :: ranges rest
  | c :: rest => ⟨c, c⟩ :: ranges rest
  | [] => []

/-- Splits a text after the first bracket that closes a class, which must not come first. -/
def closeClass : List Char → Option (List Char × List Char)
  | [] => none
  | first :: rest =>
    match rest.dropWhile (· ≠ ']') with
    | [] => none
    | _ :: after => some (first :: rest.takeWhile (· ≠ ']'), after)

/-- The class that an opening bracket begins, and what follows it. -/
def readClass? : List Char → Option (Single × List Char)
  | '!' :: body => (closeClass body).map fun (members, rest) => (.except (ranges members), rest)
  | body => (closeClass body).map fun (members, rest) => (.within (ranges members), rest)

theorem length_closeClass {body members rest : List Char}
    (closed : closeClass body = some (members, rest)) : rest.length < body.length := by
  unfold closeClass at closed
  split at closed
  · simp at closed
  · rename_i first tail
    split at closed
    · simp at closed
    · rename_i bracket after found
      simp only [Option.some.injEq, Prod.mk.injEq] at closed
      have := (List.dropWhile_suffix (· ≠ ']') (l := tail)).length_le
      rw [found] at this
      simp_all
      omega

theorem length_readClass {body rest : List Char} {single : Single}
    (read : readClass? body = some (single, rest)) : rest.length < body.length := by
  unfold readClass? at read
  split at read <;> simp only [Option.map_eq_some_iff, Prod.mk.injEq, Prod.exists] at read <;>
    obtain ⟨members, tail, closed, _, same⟩ := read <;>
    have := length_closeClass closed <;>
    simp_all
  omega

/-- Reads the rest of a pattern from a position on. `component` tells whether a component begins
there: nothing or a separator comes before. -/
def readParts (position : Nat) (component : Bool) : List Char → Except SyntaxError (List Part)
  | [] => .ok []
  | '?' :: rest => (.one .any :: ·) <$> readParts (position + 1) false rest
  | '*' :: '*' :: '*' :: _ => .error ⟨position + 2, .tooManyStars⟩
  | '*' :: '*' :: rest =>
    if component then
      match rest with
      | [] => .ok [.anyComponents]
      | '/' :: rest => (.anyComponents :: ·) <$> readParts (position + 3) true rest
      | _ => .error ⟨position + 2, .partialComponent⟩
    else .error ⟨position - 1, .partialComponent⟩
  | '*' :: rest => (.anyRun :: ·) <$> readParts (position + 1) false rest
  | '[' :: rest =>
    match read : readClass? rest with
    | none => .error ⟨position, .unclosedClass⟩
    | some (single, after) =>
      have := length_readClass read
      (.one single :: ·) <$> readParts (position + 1 + (rest.length - after.length)) false after
  | c :: rest => (.one (.char c) :: ·) <$> readParts (position + 1) (c = '/') rest
termination_by pattern => pattern.length

/-- Reads a pattern. -/
def parse (pattern : String) : Except SyntaxError Glob :=
  Glob.mk <$> readParts 0 true pattern.toList

/-! ### Matching -/

/-- Is the character in one of the ranges? -/
def inRanges (ranges : List Range) (c : Char) : Bool :=
  ranges.any fun range => range.first ≤ c && c ≤ range.last

/-- Does it stand for the character? -/
def Single.admits (single : Single) (c : Char) : Bool :=
  match single with
  | .char expected => c = expected
  | .any => true
  | .within ranges => inRanges ranges c
  | .except ranges => !inRanges ranges c

/-- What comes of matching parts against a text. -/
inductive Verdict where
  | matched
  | refused
  /-- The text is used up, and what is left of the parts needs more of it. -/
  | exhausted
  deriving DecidableEq, Repr

/-- A text and what is left of it after each of its characters. -/
def suffixes : List Char → List (List Char)
  | [] => [[]]
  | c :: rest => (c :: rest) :: suffixes rest

/-- What is left of a text after each separator, and after all of it. -/
def afterSeparators : List Char → List (List Char)
  | [] => [[]]
  | c :: rest => if c = '/' then rest :: afterSeparators rest else afterSeparators rest

/-- The first verdict that is no refusal. -/
def firstDecisive (verdict : List Char → Verdict) : List (List Char) → Verdict
  | [] => .refused
  | text :: rest =>
    match verdict text with
    | .refused => firstDecisive verdict rest
    | decisive => decisive

/-- Matches the parts against the whole text. -/
def matchParts : List Part → List Char → Verdict
  | [], [] => .matched
  | [], _ :: _ => .refused
  | .anyRun :: parts, text => firstDecisive (matchParts parts) (suffixes text)
  | .anyComponents :: parts, text =>
    firstDecisive (matchParts parts) (text :: afterSeparators text)
  | .one _ :: _, [] => .exhausted
  | .one single :: parts, c :: rest =>
    if single.admits c then matchParts parts rest else .refused

/-- Does the pattern match the whole text? -/
def isMatch (glob : Glob) (text : String) : Bool := matchParts glob.parts text.toList = .matched

end Glob
end Gossip
