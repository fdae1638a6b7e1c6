import Groundwork.Shell.Program.Awk
import Groundwork.Shell.Program.Comparing
import Groundwork.Shell.Program.Copies
import Groundwork.Shell.Program.Dumping
import Groundwork.Shell.Program.Expr
import Groundwork.Shell.Program.Find
import Groundwork.Shell.Program.Grep
import Groundwork.Shell.Program.Lines
import Groundwork.Shell.Program.Listing
import Groundwork.Shell.Program.Merging
import Groundwork.Shell.Program.Plain
import Groundwork.Shell.Program.Sed
import Groundwork.Shell.Program.Splitting
import Groundwork.Shell.Program.Xargs

/-!
Programs by name.
-/

namespace Groundwork.Shell.Program

/-- Programs that write words and numbers, check conditions or tell of their surroundings. -/
def plainTable : List (String × Program) :=
  [("true", ending 0), ("false", ending 1), ("echo", echo), ("printf", printf), ("yes", yes),
    ("test", test false), ("[", test true), ("sleep", sleep), ("seq", seq),
    ("basename", basename), ("dirname", dirname), ("pwd", pwd), ("whoami", telling "root" 0),
    ("id", id), ("uname", uname), ("tty", telling "not a tty" 1), ("which", which),
    ("printenv", printenv), ("env", env), ("nohup", nohup), ("nice", nice), ("timeout", timeout),
    ("expr", expr), ("xargs", xargs)]

/-- Programs that work on files and directories. -/
def fileTable : List (String × Program) :=
  [("cat", cat), ("tee", tee), ("touch", touch), ("truncate", truncate), ("rm", rm),
    ("rmdir", rmdir), ("mkdir", mkdir), ("chmod", chmod), ("chown", chown "user"),
    ("chgrp", chown "group"), ("mktemp", mktemp), ("cp", cp), ("mv", mv), ("ln", ln),
    ("readlink", readlink), ("realpath", realpath), ("install", install), ("ls", ls),
    ("stat", stat), ("find", find)]

/-- Programs that work on lines of text. -/
def textTable : List (String × Program) :=
  [("head", head), ("tail", tail), ("tac", tac), ("rev", rev), ("nl", nl), ("cut", cut),
    ("paste", paste), ("tr", tr), ("fold", fold), ("expand", expand), ("unexpand", unexpand),
    ("wc", wc), ("uniq", uniq), ("sort", sort), ("comm", comm), ("join", join),
    ("cmp", cmp), ("diff", diff), ("sed", sed), ("grep", grep "G"),
    ("egrep", grep "E"), ("fgrep", grep "F"), ("split", split),
    ("awk", awk), ("mawk", awk)]

/-- Programs that show bytes in other ways or sum them up. -/
def byteTable : List (String × Program) :=
  [("od", od), ("base64", showDigits Letters.sixBits), ("base32", showDigits Letters.fiveBits),
    ("md5sum", sumUp "MD5" Digest.sum128), ("sha1sum", sumUp "SHA1" Digest.sum160),
    ("sha224sum", sumUp "SHA224" Digest.sum224), ("sha256sum", sumUp "SHA256" Digest.sum256),
    ("cksum", cksum)]

/-- Programs by their names. -/
def table : Dictionary String Program :=
  Dictionary.ofList (plainTable ++ fileTable ++ textTable ++ byteTable)

/-- The program of a name. -/
def named? (name : String) : Option Program := table.get? name

/-- The directories in which programs lie. -/
def directories : List String := ["/usr/bin/", "/bin/"]

/-- The name of the program that a path leads to. -/
def plainName? (path : String) : Option String :=
  (directories.find? fun directory => directory.toList.isPrefixOf path.toList).map fun directory =>
    String.ofList (path.toList.drop directory.length)

/-- The names under which the shell itself is started. -/
def shellNames : List String := ["sh", "dash", "bash"]

/-- The directories in which programs are looked for if nothing else is said. -/
def standardPath : String := "/usr/local/sbin:/usr/local/bin:/usr/sbin:/usr/bin:/sbin:/bin"

end Groundwork.Shell.Program
