import MessageTemplate.Command.Environment
import MessageTemplate.Text.Digits

/-!
# Coloured output

Output is coloured when an option says so.  Without the option the environment
decides: it may force colours, or it may pass the output off as a terminal and
describe one that shows colours.
-/

namespace MessageTemplate.Command

/-- When output is coloured. -/
inductive ColorChoice where
  | auto
  | always
  | never
  deriving DecidableEq, Repr

/-- The choice of a word. -/
def ColorChoice.ofWord? : String → Option ColorChoice
  | "auto" => some auto
  | "always" => some always
  | "never" => some never
  | _ => none

namespace Environment

/-! ## Forced colours -/

/-- The level of colours that is forced, zero for none.  A word that is not a number
counts as the lowest level. -/
def forcedLevel (env : Environment) : Nat :=
  match env.get? "FORCE_COLOR" with
  | some "true" | some "" => 1
  | some "false" => 0
  | some level => (Text.unsigned64? level.toList).getD 1
  | none => if env.isOn "CLICOLOR_FORCE" then 1 else 0

/-! ## Terminals -/

/-- The beginnings of the names of terminals that show colours. -/
def colorTerminalBeginnings : List String :=
  ["screen", "xterm", "vt100", "vt220", "rxvt"]

/-- The words in the names of terminals that show colours. -/
def colorTerminalWords : List String :=
  ["color", "ansi", "cygwin", "linux"]

/-- The ends of the names of terminals that show many colours. -/
def colorTerminalEnds : List String :=
  ["direct", "truecolor", "256", "256color"]

/-- Whether a word stands somewhere in a text. -/
def holdsWord (word : List Char) : List Char → Bool
  | [] => word.isEmpty
  | c :: s => word.isPrefixOf (c :: s) || holdsWord word s

/-- Whether a terminal of this name shows colours. -/
def isColorTerminal (name : String) : Bool :=
  let name := name.toList
  colorTerminalBeginnings.any (·.toList.isPrefixOf name) ||
    colorTerminalWords.any (holdsWord ·.toList name) ||
    colorTerminalEnds.any (·.toList.isSuffixOf name)

/-- The programs whose windows show colours. -/
def colorPrograms : List String :=
  ["iTerm.app", "Apple_Terminal"]

/-- Whether the environment passes the output off as a terminal that colours are not
kept from. -/
def hasTerminal (env : Environment) : Bool :=
  env.isOn "IGNORE_IS_TERMINAL" && !env.isOn "NO_COLOR" && env.get? "TERM" != some "dumb"

/-! ## Automated builds -/

/-- The variables that only services for automated builds set. -/
def buildServiceNames : List String :=
  ["CI_NAME", "GITHUB_ACTION", "GITLAB_CI", "NETLIFY", "TRAVIS", "CODEBUILD_SRC_DIR",
   "BUILDER_OUTPUT", "GITLAB_DEPLOYMENT", "NOW_GITHUB_DEPLOYMENT", "NOW_BUILDER",
   "BITBUCKET_DEPLOYMENT", "GERRIT_PROJECT", "SYSTEM_TEAMFOUNDATIONCOLLECTIONURI", "BITRISE_IO",
   "BUDDY_WORKSPACE_ID", "BUILDKITE", "CIRRUS_CI", "APPVEYOR", "CIRCLECI", "SEMAPHORE", "DRONE",
   "DSARI", "TDDIUM", "STRIDER", "TASKCLUSTER_ROOT_URL", "JENKINS_URL", "bamboo.buildKey",
   "GO_PIPELINE_NAME", "HUDSON_URL", "WERCKER", "NEVERCODE", "RENDER", "SAIL_CI", "SHIPPABLE"]

/-- Whether the command runs in an automated build. -/
def isBuild (env : Environment) : Bool :=
  (env.get? "CI").any ["true", "1", "woodpecker"].contains ||
    (env.get? "NODE").any (fun path =>
      "//heroku/node/bin/node".toList.isSuffixOf path.toList) ||
    buildServiceNames.any env.has

/-! ## Decision -/

/-- Whether the environment describes something that shows colours. -/
def describesColors (env : Environment) : Bool :=
  env.has "COLORTERM" || (env.get? "TERM").any isColorTerminal ||
    (env.get? "TERM_PROGRAM").any colorPrograms.contains || env.isOn "CLICOLOR" || env.isBuild

/-- Whether the environment asks for colours. -/
def showsColors (env : Environment) : Bool :=
  0 < env.forcedLevel || (env.hasTerminal && env.describesColors)

/-- The variables that decide about colours. -/
def colorNames : List String :=
  ["FORCE_COLOR", "CLICOLOR_FORCE", "IGNORE_IS_TERMINAL", "NO_COLOR", "TERM", "COLORTERM",
   "TERM_PROGRAM", "CLICOLOR", "CI", "NODE"] ++ buildServiceNames

end Environment

/-- Whether output is coloured. -/
def ColorChoice.isOn (choice : ColorChoice) (env : Environment) : Bool :=
  match choice with
  | auto => env.showsColors
  | always => true
  | never => false

end MessageTemplate.Command
