import SchemaCheck.Text.LowerCase

/-!
# Lower snake case

The lower_snake_case form of an identifier: words in lower case, joined by single underscores. A
word starts after a delimiter, at a capital after a lower-case letter, and at a capital before a
letter that ends an acronym, so that `HTTPServer` becomes `http_server`.
-/

namespace SchemaCheck.Text

/-- The characters that separate words. -/
def isDelimiter (c : Char) : Bool :=
  c == '.' || c == '-' || c == '_' || c == ' ' || c == '\t' || c == '\n' || c == '\r'

/-- A text without the delimiters at its two ends. -/
def trimDelimiters (cs : List Char) : List Char :=
  ((cs.dropWhile isDelimiter).reverse.dropWhile isDelimiter).reverse

/-- Whether the next character, if there is one, carries on a word: no capital, no numeral and no
delimiter. -/
def continuesWord : List Char → Bool
  | [] => false
  | c :: _ => !isUpper c && !isNumeric c && !isDelimiter c

/-- What a character adds to the output: `previous` is the character before it in the input,
`afterMark` says that the output ends in an underscore, and `rest` follows it. -/
def snakeStep (previous : Char) (afterMark : Bool) (c : Char) (rest : List Char) : List Char :=
  let c := if isDelimiter c then '_' else c
  if isUpper c && !afterMark && (continuesWord rest || isLower previous) then ['_', c]
  else if c == '_' && afterMark then []
  else [c]

/-- Underscores between the words of the text that follows the character `previous`. -/
def snakeAfter (previous : Char) (afterMark : Bool) : List Char → List Char
  | [] => []
  | c :: rest =>
    let out := snakeStep previous afterMark c rest
    out ++ snakeAfter c (if out.isEmpty then afterMark else out.getLast? == some '_') rest

/-- The words of a text, joined by underscores, in the case they were written in. -/
def snakeWords (cs : List Char) : List Char :=
  match trimDelimiters cs with
  | [] => []
  | c :: rest => c :: snakeAfter c false rest

/-- The lower_snake_case form of an identifier. -/
def lowerSnakeCase (s : String) : String :=
  String.ofList (lowerCase (snakeWords s.toList))

end SchemaCheck.Text
