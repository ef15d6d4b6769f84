import SchemaCheck.Testing.Host.Chars

/-!
# Names and words in messages

How messages show what they are about. A word stands between quotes, with escapes in it; the name of
a file is shown so that a shell reads it back, between quotes only where it needs them.
-/

namespace SchemaCheck.Testing

/-- The escape of a character that shows nothing. -/
def escapeOf (c : Char) : Chars :=
  let letters : List (Nat × Char) :=
    [(7, 'a'), (8, 'b'), (9, 't'), (10, 'n'), (11, 'v'), (12, 'f'), (13, 'r')]
  match letters.lookup c.toNat with
  | some l => ['\\', l]
  | none =>
    let ds := Nat.toDigits 8 c.toNat
    '\\' :: List.replicate (3 - ds.length) '0' ++ ds

/-- A word between quotes. -/
def quoted (cs : Chars) : Chars :=
  apostrophe :: (cs.flatMap fun c =>
    if c == apostrophe || c == '\\' then ['\\', c]
    else if ofKind "print" c then [c] else escapeOf c) ++ [apostrophe]

/-- Whether double quotes do for a name that holds a single quote. -/
def isPlainInQuotes (c : Char) : Bool :=
  ofKind "print" c && !("!\"$&()*;<=>[^|\\?".toList.contains c) && c != backquote

/-- The name of a file between quotes: `inEscapes` says whether the characters before were
escapes. -/
def quotedFrom (inEscapes : Bool) : Chars → Chars
  | [] => if inEscapes then [] else [apostrophe]
  | c :: cs =>
    let back := if inEscapes then [apostrophe] else []
    if c == apostrophe then
      back ++ [apostrophe, '\\', apostrophe, apostrophe] ++ quotedFrom false cs
    else if ofKind "print" c then back ++ c :: quotedFrom false cs
    else
      (if inEscapes then [] else [apostrophe, '$', apostrophe]) ++ escapeOf c ++
        (match cs with
          | d :: _ =>
            if ofKind "print" d then apostrophe :: quotedFrom true cs else quotedFrom true cs
          | [] => [apostrophe])

/-- The name of a file between quotes. -/
def quotedName (cs : Chars) : Chars :=
  if cs.contains apostrophe && cs.all isPlainInQuotes then '"' :: cs ++ ['"']
  else apostrophe :: quotedFrom false cs

/-- Whether a name needs quotes. -/
def needsQuotes (cs : Chars) : Bool :=
  cs.isEmpty || cs = ['\x7b'] || cs = ['\x7d'] ||
    (cs.head?.map fun c => c == '#' || c == '~').getD false ||
    cs.any fun c => !ofKind "print" c || c == apostrophe || c == backquote ||
      " !\"$&()*;<=>[^|\\?:".toList.contains c

/-- The name of a file, between quotes if it needs them. -/
def nameText (cs : Chars) : Chars := if needsQuotes cs then quotedName cs else cs

end SchemaCheck.Testing
