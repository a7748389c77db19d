/-!
# Patterns of the shell

A pattern matches a text: a star stands for any text, a question mark for one character
and brackets for one of some characters, ranges or classes.  Quoted characters stand for
themselves.  A pattern also trims a text at one of its ends.
-/

namespace TypeCoverage.Shell

/-- The characters of a word, each with whether it is quoted. -/
abbrev Field : Type := List (Bool × Char)

namespace Pattern

/-- What stands between the brackets of a pattern. -/
inductive Member where
  | range (first last : Char)
  | class (name : String)
  deriving DecidableEq, Repr

/-- One element of a pattern. -/
inductive Element where
  | any
  | one
  | exactly (c : Char)
  | among (negated : Bool) (members : List Member)
  deriving DecidableEq, Repr

/-- The names of the classes of characters. -/
def classNames : List String :=
  ["alnum", "alpha", "blank", "cntrl", "digit", "graph", "lower", "print", "punct", "space",
   "upper", "xdigit"]

/-- A visible character. -/
def isGraphic (c : Char) : Bool := 33 ≤ c.toNat && c.toNat ≤ 126

/-- Whether a character belongs to a class. -/
def isInClass (name : String) (c : Char) : Bool :=
  match name with
  | "alnum" => c.isAlphanum
  | "alpha" => c.isAlpha
  | "blank" => c = ' ' || c = '\t'
  | "cntrl" => c.toNat < 32 || c.toNat = 127
  | "digit" => c.isDigit
  | "graph" => isGraphic c
  | "lower" => c.isLower
  | "print" => c = ' ' || isGraphic c
  | "punct" => isGraphic c && !c.isAlphanum
  | "space" => c = ' ' || (9 ≤ c.toNat && c.toNat ≤ 13)
  | "upper" => c.isUpper
  | _ => c.isDigit || ('a' ≤ c && c ≤ 'f') || ('A' ≤ c && c ≤ 'F')

/-- The class of characters that is named between colons, and what follows its bracket. -/
def class? (cs : Field) : Option (String × Field) :=
  (classNames.find? fun name =>
      ((":" ++ name ++ ":]").toList.map (false, ·)).isPrefixOf cs).map fun name =>
    (name, cs.drop (name.length + 3))

/-- The members between brackets up to the closing one, which is not the first
character. -/
def readMembers : Nat → List Member → Field → Option (List Member × Field)
  | 0, _, _ => none
  | fuel + 1, done, cs =>
    match cs with
    | [] => none
    | (quoted, c) :: rest =>
      if c = ']' && !quoted && !done.isEmpty then some (done, rest)
      else match (if c = '[' && !quoted then class? rest else none), rest with
        | some (name, rest), _ => readMembers fuel (.class name :: done) rest
        | none, (false, '-') :: (lastQuoted, last) :: more =>
          if last = ']' && !lastQuoted then readMembers fuel (.range c c :: done) rest
          else readMembers fuel (.range c last :: done) more
        | none, _ => readMembers fuel (.range c c :: done) rest

/-- The elements of a pattern, `fuel` characters at most. -/
def elementsOf : Nat → Field → List Element
  | 0, _ => []
  | fuel + 1, cs =>
    match cs with
    | [] => []
    | (false, '*') :: rest => .any :: elementsOf fuel rest
    | (false, '?') :: rest => .one :: elementsOf fuel rest
    | (false, '[') :: rest =>
      let (negated, body) := match rest with
        | (false, '!') :: body => (true, body)
        | _ => (false, rest)
      match readMembers (body.length + 1) [] body with
      | some (members, left) => .among negated members :: elementsOf fuel left
      | none => .exactly '[' :: elementsOf fuel rest
    | (_, c) :: rest => .exactly c :: elementsOf fuel rest

/-- The elements of a pattern. -/
def ofField (f : Field) : List Element := elementsOf (f.length + 1) f

/-- Whether a character is one of those between brackets. -/
def Member.holds (c : Char) : Member → Bool
  | .range first last => first ≤ c && c ≤ last
  | .class name => isInClass name c

/-- Whether a text matches. -/
def isMatch : List Element → List Char → Bool
  | [], cs => cs.isEmpty
  | .any :: es, [] => isMatch es []
  | .any :: es, c :: cs => isMatch es (c :: cs) || isMatch (.any :: es) cs
  | _ :: _, [] => false
  | .one :: es, _ :: cs => isMatch es cs
  | .exactly d :: es, c :: cs => c = d && isMatch es cs
  | .among negated members :: es, c :: cs =>
    (members.any (·.holds c)) != negated && isMatch es cs
termination_by es cs => (es.length, cs.length)

/-- Whether a word has characters that are no plain ones in a pattern. -/
def isActive (f : Field) : Bool :=
  (ofField f).any fun
    | .exactly _ => false
    | _ => true

/-- A text up to the first mark between texts. -/
def firstText (cs : List Char) : List Char := cs.takeWhile (· ≠ '\x00')

/-- A text without its front up to the first of some places at which the front matches. -/
def trimFront (es : List Element) (cs : List Char) (places : List Nat) : List Char :=
  match places.find? fun n => isMatch es (firstText (cs.take n)) with
  | some n => cs.drop n
  | none => cs

/-- A text without its back from the first of some places on at which the back matches. -/
def trimBack (es : List Element) (cs : List Char) (places : List Nat) : List Char :=
  match places.find? fun n => isMatch es (firstText (cs.drop n)) with
  | some n => cs.take n
  | none => cs

end Pattern

end TypeCoverage.Shell
