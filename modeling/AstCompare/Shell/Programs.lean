import AstCompare.Shell.Tool.Difference
import AstCompare.Shell.Tool.Digest
import AstCompare.Shell.Tool.Directories
import AstCompare.Shell.Tool.Edit
import AstCompare.Shell.Tool.Find
import AstCompare.Shell.Tool.Search
import AstCompare.Shell.Tool.Sort
import AstCompare.Shell.Tool.Values

/-!
# The programs of the system

Which programs there are. Most of them work alone: they read, and then they print. Others pass on
what they read as it comes, or start further programs, and some are the shell itself.

## Main definitions

* `tool?`: the program of a name, if it works alone.
* `isProgressive`: what such a program prints for the beginning of its input is the beginning of
  what it prints.
* `shellNames`, `starterNames`, `flowNames`: the names of other programs.
-/

namespace AstCompare.Shell

/-- The programs that work alone. -/
def tools : List (String × Tool) :=
  [("cat", Tool.concatenate), ("cp", Tool.copyFiles), ("mv", Tool.moveFiles),
    ("ln", Tool.linkFiles), ("rm", Tool.removeFiles), ("rmdir", Tool.removeDirectories),
    ("mkdir", Tool.makeDirectories), ("mkfifo", Tool.makePipes), ("touch", Tool.touch),
    ("chmod", Tool.changeMode), ("install", Tool.install), ("truncate", Tool.truncateFiles),
    ("ls", Tool.listFiles {}), ("dir", Tool.listFiles { layout := .columns, quoting := .escape }),
    ("vdir", Tool.listFiles { layout := .long, quoting := .escape }),
    ("basename", Tool.basename), ("dirname", Tool.dirname), ("realpath", Tool.realPath),
    ("readlink", Tool.readLink), ("stat", Tool.fileStatus), ("mktemp", Tool.makeTemporary),
    ("cmp", Tool.compareFiles), ("diff", Tool.compareLineFiles), ("wc", Tool.wordCount),
    ("head", Tool.head), ("tail", Tool.tail), ("sort", Tool.sortLines), ("uniq", Tool.uniqueLines),
    ("cut", Tool.cutLines), ("paste", Tool.pasteLines), ("tac", Tool.reverseLines),
    ("rev", Tool.reverseEach), ("nl", Tool.numberedLines), ("fold", Tool.foldLines),
    ("expand", Tool.expandLines), ("unexpand", Tool.unexpandLines), ("split", Tool.splitFile),
    ("comm", Tool.commonLines), ("tr", Tool.translate), ("dd", Tool.copyBlocks),
    ("od", Tool.octalDump), ("grep", Tool.searchLines "grep" []),
    ("egrep", Tool.searchLines "grep" ['E']), ("fgrep", Tool.searchLines "grep" ['F']),
    ("sed", Tool.editLines), ("expr", Tool.calculate), ("seq", Tool.countUp),
    ("echo", Tool.printArguments), ("printf", Tool.printFormat), ("test", Tool.testCondition false),
    ("[", Tool.testCondition true), ("printenv", Tool.printVariables), ("sleep", Tool.sleep),
    ("pwd", Tool.workingDirectory), ("uname", Tool.systemName),
    ("arch", Tool.fixedText "x86_64\n" 0), ("id", Tool.userIdentity),
    ("whoami", Tool.fixedText "nobody\n" 0), ("groups", Tool.fixedText "nogroup\n" 0),
    ("nproc", Tool.fixedText "1\n" 0), ("hostname", Tool.fixedText "localhost\n" 0),
    ("tty", Tool.fixedText "not a tty\n" 1), ("md5sum", Tool.printSums "md5sum" Tool.Digest.md5),
    ("sha1sum", Tool.printSums "sha1sum" Tool.Digest.sha1),
    ("sha224sum", Tool.printSums "sha224sum" Tool.Digest.sha224),
    ("sha256sum", Tool.printSums "sha256sum" Tool.Digest.sha256),
    ("sha384sum", Tool.printSums "sha384sum" Tool.Digest.sha384),
    ("sha512sum", Tool.printSums "sha512sum" Tool.Digest.sha512), ("cksum", Tool.printCounts),
    ("sum", Tool.printSmallSums), ("shuf", Tool.anyOrder), ("link", Tool.linkFile),
    ("unlink", Tool.unlinkFile), ("logname", Tool.complainOnly "logname: no login name" 1),
    ("base64", Tool.recode), ("date", Tool.clock), ("factor", Tool.factors),
    ("which", Tool.whichPrograms), ("true", Tool.constant 0), ("false", Tool.constant 1),
    ("sync", Tool.constant 0), ("chown", Tool.constant 0), ("chgrp", Tool.constant 0)]

/-- The program of a name, if it works alone. -/
def tool? (name : String) : Option Tool :=
  tools.lookup name

/-- What the program prints for the beginning of its input is the beginning of what it prints in the
end. -/
def isProgressive (name : String) : Bool :=
  ["cat", "cut", "egrep", "expand", "fgrep", "fold", "grep", "nl", "od", "rev", "sed", "tr",
    "unexpand", "uniq"].contains name

/-- The names of the shell. -/
def shellNames : List String := ["sh", "dash", "bash"]

/-- The programs that start others. -/
def starterNames : List String :=
    ["env", "find", "nice", "nohup", "setsid", "stdbuf", "timeout", "xargs"]

/-- The programs that pass on what they read, or print, without an end. -/
def flowNames : List String := ["tee", "yes"]

/-- The names of all programs. -/
def programNames : List String :=
  tools.map Prod.fst ++ shellNames ++ starterNames ++ flowNames

end AstCompare.Shell
