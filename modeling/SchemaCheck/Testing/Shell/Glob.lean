import SchemaCheck.Testing.Host.World
import SchemaCheck.Testing.Shell.Pattern
import SchemaCheck.Testing.Shell.Script

/-!
# Paths that patterns stand for

A word with characters that mean something in a pattern stands for the paths that match it, in
order. A name that begins with a dot is matched only by a pattern that does. A tilde at the start of
a word stands for a home.
-/

namespace SchemaCheck.Testing.Shell

open Host

/-- Whether a character means something in a pattern. -/
def Glyph.isMeta (g : Glyph) : Bool := !g.isQuoted && ['*', '?', '['].contains g.char

/-- Glyphs between slashes. -/
def components (gs : List Glyph) : List (List Glyph) :=
  gs.foldr (fun g pieces =>
    if g.char == '/' then [] :: pieces
    else match pieces with
      | p :: ps => (g :: p) :: ps
      | [] => [[g]]) [[]]

/-- The paths that begin with a text and go on as components say, seen from a directory. -/
def pathsFrom (w : World) (text : Chars) : List (List Glyph) → List Chars
  | [] => [text]
  | piece :: rest =>
    let directory : Chars := if text.isEmpty then selfName else text
    let goOn (name : Chars) : List Chars :=
      let path := text ++ name
      match rest with
      | [] => if (w.files.find w.self.directory path false).isOk then [path] else []
      | _ => pathsFrom w (path ++ ['/']) rest
    if piece.any Glyph.isMeta then
      match w.files.find w.self.directory directory with
      | .error _ => []
      | .ok n =>
        let hidden := (piece.head?.map fun g => g.char == '.').getD false
        let names := (w.files.content n).entries.map Prod.fst
        let names := names.filter fun name => (hidden || name.head? != some '.') &&
          matchesPattern piece name
        names.flatMap goOn
    else
      let name := piece.map Glyph.char
      if name.isEmpty then
        match rest with
        | [] => if text.isEmpty || (w.files.find w.self.directory text).isOk then [text] else []
        | _ => pathsFrom w (text ++ ['/']) rest
      else goOn name

/-- The paths that a word stands for, in order; none if nothing matches. -/
def pathsOf (w : World) (gs : List Glyph) : List Chars :=
  if gs.any Glyph.isMeta then
    (pathsFrom w [] (components gs)).mergeSort fun x y => !Chars.before y x
  else []

/-- The home of a user, as the list of users says. -/
def homeOf? (w : World) (user : Chars) : Option Chars :=
  match w.files.find 0 "/etc/passwd".toList with
  | .error _ => none
  | .ok n => ((w.files.content n).text.lines.map fun l => Chars.splitAt ':' l.body).findSome? fun
    | fields => if fields.head? = some user then fields[5]? else none

/-- A text in which tildes stand for homes: at the start, and in the values of variables after each
colon. `isWhole` says whether the text goes on to the end of the word. -/
def withHomes (home : Chars → Option Chars) (inAssignment isWhole : Bool) :
    Nat → Bool → Chars → Word
  | 0, _, cs => [.plain cs]
  | _ + 1, _, [] => []
  | fuel + 1, isStart, c :: cs =>
    if c == '~' && isStart then
      let (user, rest) := cs.span fun d => d != '/' && !(inAssignment && d == ':')
      match (if rest.isEmpty && !isWhole then none else home user) with
      | some path => .quoted path :: withHomes home inAssignment isWhole fuel false rest
      | none => Part.cons (.plain [c]) (withHomes home inAssignment isWhole fuel false cs)
    else
      Part.cons (.plain [c])
        (withHomes home inAssignment isWhole fuel (inAssignment && c == ':') cs)

mutual

/-- Parts of a word in which tildes stand for homes. -/
def homesInParts (home : Chars → Option Chars) (inAssignment isStart : Bool) :
    List Part → List Part
  | [] => []
  | p :: rest =>
    let endsOpen := match p with
      | .plain cs => inAssignment && cs.getLast? = some ':'
      | _ => false
    homesInPart home inAssignment isStart rest.isEmpty p ++
      homesInParts home inAssignment endsOpen rest

/-- A part of a word in which tildes stand for homes. -/
def homesInPart (home : Chars → Option Chars) (inAssignment isStart isWhole : Bool) :
    Part → List Part
  | .plain cs =>
    if cs.contains '~' then withHomes home inAssignment isWhole (cs.length + 1) isStart cs
    else [.plain cs]
  | .quoted cs => [.quoted cs]
  | .expansion inQuotes e =>
    match e with
    | .parameter name orNull a w =>
      [.expansion inQuotes (.parameter name orNull a
        (if inQuotes then w else homesInParts home false true w))]
    | e => [.expansion inQuotes e]

end

/-- A word in which tildes stand for homes. -/
def Word.withHomes (home : Chars → Option Chars) (inAssignment : Bool) (w : Word) : Word :=
  homesInParts home inAssignment true w

end SchemaCheck.Testing.Shell
