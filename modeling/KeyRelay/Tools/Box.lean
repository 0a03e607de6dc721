import KeyRelay.Tools.Awk.Tool
import KeyRelay.Tools.Blocks
import KeyRelay.Tools.Characters
import KeyRelay.Tools.Columns
import KeyRelay.Tools.Comparing
import KeyRelay.Tools.Copying
import KeyRelay.Tools.Edit.Run
import KeyRelay.Tools.Encoding
import KeyRelay.Tools.Evaluation
import KeyRelay.Tools.Excerpt
import KeyRelay.Tools.Names
import KeyRelay.Tools.OneFile
import KeyRelay.Tools.OptionsOnly
import KeyRelay.Tools.Printing
import KeyRelay.Tools.Search
import KeyRelay.Tools.Sequence
import KeyRelay.Tools.Sorting
import KeyRelay.Tools.Surroundings
import KeyRelay.Tools.Tree

/-!
The programs that lookup scripts can call, by their names. They belong to the outer layer, as the
shell does.
-/

namespace KeyRelay.Tools

def tools : List (String × Job Unit) :=
  [("[", Evaluation.test true), ("arch", Surroundings.arch), ("awk", Awk.awk),
    ("base64", Encoding.base64), ("basename", Names.basename), ("cat", Copying.cat),
    ("chgrp", OneFile.own true), ("chmod", Tree.chmod), ("chown", OneFile.own false),
    ("cksum", Digest.cksum), ("cmp", Comparing.cmp), ("comm", Sorting.comm), ("cp", Tree.cp),
    ("cut", Columns.cut), ("date", Surroundings.date), ("dd", Blocks.dd), ("diff", Comparing.diff),
    ("dir", Tree.ls), ("dirname", Names.dirname), ("echo", Printing.echo),
    ("egrep", Job.renamed "grep" (Search.search (some .lenient))), ("expand", Columns.expand),
    ("expr", Evaluation.expr), ("false", Job.setStatus 1),
    ("fgrep", Job.renamed "grep" (Search.search none)), ("fold", Columns.fold),
    ("grep", Search.search (some .basic)), ("groups", Surroundings.groups), ("head", Excerpt.head),
    ("id", Surroundings.id'), ("link", OneFile.link), ("ln", Tree.ln),
    ("logname", Surroundings.logname), ("ls", Tree.ls), ("mawk", Awk.awk),
    ("md5sum", Digest.digest "MD5" Digest.md5), ("mkdir", Tree.mkdir), ("mktemp", Names.mktemp),
    ("mv", Tree.mv), ("nl", Copying.nl), ("nproc", Surroundings.nproc), ("od", Encoding.od),
    ("paste", Columns.paste), ("printenv", Surroundings.printenv), ("printf", Printing.printf),
    ("pwd", Names.pwd), ("readlink", Names.readlink), ("realpath", Names.realpath),
    ("rev", Copying.rev), ("rm", Tree.rm), ("rmdir", Tree.rmdir), ("sed", Edit.sed),
    ("seq", Sequence.seq), ("sha1sum", Digest.digest "SHA1" Digest.sha1),
    ("sha224sum", Digest.digest "SHA224" Digest.sha224),
    ("sha256sum", Digest.digest "SHA256" Digest.sha256),
    ("sha384sum", Digest.digest "SHA384" Digest.sha384),
    ("sha512sum", Digest.digest "SHA512" Digest.sha512), ("sleep", Surroundings.sleep),
    ("sort", Sorting.sort), ("stat", Tree.stat), ("tac", Copying.tac), ("tail", Excerpt.tail),
    ("tee", Copying.tee), ("test", Evaluation.test false), ("touch", Tree.touch),
    ("tr", Characters.tr), ("true", return ()), ("truncate", OneFile.truncate),
    ("tty", Surroundings.tty), ("uname", Surroundings.uname), ("uniq", Sorting.uniq),
    ("unlink", OneFile.unlink), ("vdir", Tree.ls), ("wc", Copying.wc),
    ("which", Surroundings.which), ("whoami", Surroundings.whoami),
    ("yes", Sequence.yes)] ++ OptionsOnly.all

def find? (name : String) : Option (Job Unit) :=
  (tools.find? fun t => t.1 = name).map (·.2)

/-- Names of all programs of the library. -/
def programs : List String :=
  tools.map (·.1) ++ ["sh", "dash", "bash", "rbash", "env", "find", "kill", "nice", "nohup",
    "stdbuf", "timeout", "xargs"]

end KeyRelay.Tools
