import SchemaCheck.Testing.Shell.Script

/-!
# Patterns

The patterns of shell scripts: a star stands for any characters, a question mark for one, and
brackets for one of a set. A character that was quoted stands for itself.
-/

namespace SchemaCheck.Testing.Shell

/-- A character of an expanded word, and whether it was quoted. -/
structure Glyph where
  char : Char
  isQuoted : Bool
  deriving DecidableEq

/-- The members of a set between brackets. -/
inductive Member where
  | range (first last : Char)
  | named (kind : String)

/-- A piece of a pattern. -/
inductive PatternItem where
  | any
  | one
  | exactly (c : Char)
  | set (isNegated : Bool) (members : List Member)

/-- Whether a character is a member. -/
def Member.holds (c : Char) : Member → Bool
  | range first last => first ≤ c && c ≤ last
  | named kind => ofKind kind c

/-- The members up to the bracket that closes, and what follows it. A bracket that comes first is a
member. -/
def members? : Nat → Bool → List Glyph → Option (List Member × List Glyph)
  | 0, _, _ => none
  | _ + 1, _, [] => none
  | fuel + 1, isFirst, g :: gs =>
    if g.char == ']' && !g.isQuoted && !isFirst then some ([], gs)
    else
      let next (m : Member) (gs : List Glyph) : Option (List Member × List Glyph) :=
        (members? fuel false gs).map fun (ms, gs) => (m :: ms, gs)
      let single (gs : List Glyph) : Option (List Member × List Glyph) :=
        match gs with
        | dash :: h :: rest =>
          if dash.char == '-' && !dash.isQuoted && (h.char != ']' || h.isQuoted) then
            next (.range g.char h.char) rest
          else next (.range g.char g.char) gs
        | gs => next (.range g.char g.char) gs
      match gs with
      | colon :: rest =>
        if g.char == '[' && !g.isQuoted && colon.char == ':' then
          let (name, after) := rest.span fun h => h.char != ':'
          match after with
          | _ :: closing :: after =>
            if closing.char == ']' then
              next (.named (String.ofList (name.map Glyph.char))) after
            else single gs
          | _ => single gs
        else single gs
      | [] => single gs

/-- The pieces of a pattern. -/
def patternItems : Nat → List Glyph → List PatternItem
  | 0, _ => []
  | _ + 1, [] => []
  | fuel + 1, g :: gs =>
    if g.isQuoted then .exactly g.char :: patternItems fuel gs
    else if g.char == '*' then .any :: patternItems fuel gs
    else if g.char == '?' then .one :: patternItems fuel gs
    else if g.char == '[' then
      let (isNegated, inner) := match gs with
        | h :: rest => if h.char == '!' && !h.isQuoted then (true, rest) else (false, gs)
        | [] => (false, [])
      match members? (inner.length + 1) true inner with
      | some (ms, rest) => .set isNegated ms :: patternItems fuel rest
      | none => .exactly g.char :: patternItems fuel gs
    else .exactly g.char :: patternItems fuel gs

/-- Whether one character fits a piece that stands for one. -/
def PatternItem.fits (c : Char) : PatternItem → Bool
  | any => false
  | one => true
  | exactly d => c == d
  | set isNegated ms => ms.any (Member.holds c) != isNegated

/-- Whether characters are what the pieces stand for. -/
def matchesItems : List PatternItem → Chars → Bool
  | [], cs => cs.isEmpty
  | .any :: ps, cs =>
    matchesItems ps cs ||
      match cs with
      | [] => false
      | _ :: cs => matchesItems (.any :: ps) cs
  | _ :: _, [] => false
  | p :: ps, c :: cs => p.fits c && matchesItems ps cs
termination_by ps cs => ps.length + cs.length

/-- Whether characters match a pattern. -/
def matchesPattern (pattern : List Glyph) (cs : Chars) : Bool :=
  matchesItems (patternItems (pattern.length + 1) pattern) cs

/-- What is left of characters when the part that a pattern matches is cut off their start or end:
the shortest such part or the longest. Where nothing matches all is left. -/
def cutMatch (atEnd longest : Bool) (pattern : List Glyph) (cs : Chars) : Chars :=
  let sizes := if longest then (List.range (cs.length + 1)).reverse else List.range (cs.length + 1)
  let items := patternItems (pattern.length + 1) pattern
  let cut (n : Nat) : Chars × Chars :=
    if atEnd then (cs.drop (cs.length - n), cs.take (cs.length - n)) else (cs.take n, cs.drop n)
  match sizes.find? fun n => matchesItems items (cut n).1 with
  | some n => (cut n).2
  | none => cs

end SchemaCheck.Testing.Shell
