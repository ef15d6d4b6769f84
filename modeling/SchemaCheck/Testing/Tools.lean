import SchemaCheck.Testing.Tools.Columns
import SchemaCheck.Testing.Tools.Copying
import SchemaCheck.Testing.Tools.Counting
import SchemaCheck.Testing.Tools.Editing
import SchemaCheck.Testing.Tools.Encoding
import SchemaCheck.Testing.Tools.Letters
import SchemaCheck.Testing.Tools.Ordering
import SchemaCheck.Testing.Tools.Records
import SchemaCheck.Testing.Tools.Searching
import SchemaCheck.Testing.Tools.Starting

/-!
# Tools

The programs that scripts can call, by name.
-/

namespace SchemaCheck.Testing.Tools

/-- The programs that need nothing but the world. -/
def programs : List (String × Program) :=
  [("awk", awk), ("base64", base64), ("basename", basename), ("cat", cat), ("cksum", cksum),
    ("comm", comm), ("cp", cp), ("cut", cut), ("dd", dd), ("dirname", dirname), ("echo", echo),
    ("egrep", grepWith ["-E".toList]), ("expand", expand), ("expr", expr),
    ("fgrep", grepWith ["-F".toList]), ("fold", fold), ("grep", grepWith []), ("head", head),
    ("ls", ls), ("md5sum", digestTool Digest.md5), ("mkdir", mkdir), ("mktemp", mktemp),
    ("mv", mv), ("nl", nl), ("od", od), ("paste", paste), ("printenv", printenv),
    ("printf", printf), ("rev", rev), ("rm", rm), ("rmdir", rmdir), ("sed", sed), ("seq", seq),
    ("sha1sum", digestTool Digest.sha1), ("sha256sum", digestTool Digest.sha256),
    ("sleep", sleep), ("sort", sort), ("tac", tac), ("tail", tail), ("tee", tee),
    ("touch", touch), ("tr", tr), ("uniq", uniq), ("wc", wc), ("yes", yes)]

/-- The program of a name. -/
def program? (name : String) : Option Program := programs.lookup name

/-- The programs that start others. -/
def starters : List (String × (Starter → Program)) := [("env", env), ("xargs", xargs)]

/-- The program of a name that starts others; `start` starts one in place of itself. -/
def starter? (name : String) (start : Starter) : Option Program :=
  (starters.lookup name).map fun run => run start

/-- The name of the shell. -/
def shellName : String := "sh"

/-- The names of all programs. -/
def names : List String := programs.map Prod.fst ++ starters.map Prod.fst ++ [shellName]

end SchemaCheck.Testing.Tools
