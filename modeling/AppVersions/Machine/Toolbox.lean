-- All tools by their names.
import AppVersions.Machine.Tool.Condition
import AppVersions.Machine.Tool.Editing
import AppVersions.Machine.Tool.Filters
import AppVersions.Machine.Tool.Printing
import AppVersions.Machine.Tool.Searching
import AppVersions.Machine.Tool.Starting

namespace AppVersions.Machine

open Tool

/-- Every tool and its name. -/
def toolbox : List (String × Tool) :=
  [("[", test true), ("basename", basename), ("cat", cat), ("chmod", chmod), ("cp", cp),
    ("cut", cut), ("dirname", dirname), ("echo", echo), ("env", env), ("expr", expr),
    ("false", fun _ => return 1), ("grep", grep), ("head", head), ("ln", ln), ("ls", ls),
    ("mkdir", mkdir), ("mv", mv), ("nice", nice), ("nl", nl), ("nohup", nohup),
    ("printenv", printenv), ("printf", printf), ("pwd", pwd), ("readlink", readlink),
    ("realpath", realpath), ("rev", rev), ("rm", rm), ("rmdir", rmdir), ("sed", sed), ("seq", seq),
    ("sleep", sleep), ("sort", sort), ("tac", tac), ("tail", tail), ("tee", tee),
    ("test", test false), ("timeout", timeout), ("touch", touch), ("tr", tr),
    ("true", fun _ => return 0), ("uname", uname), ("uniq", uniq), ("wc", wc), ("which", which),
    ("xargs", xargs), ("yes", yes)]

end AppVersions.Machine
