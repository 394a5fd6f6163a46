import Moniker.Text

/-!
# Help

What is printed when help or the version is asked for.
-/

namespace Moniker
namespace CommandLine

def versionText : Text :=
  "moniker 0.1.0\n".toList

def helpLines : List String :=
  ["Template-driven identifier generator",
    "",
    "Usage: moniker [OPTIONS] --template <TEMPLATE>",
    "",
    "Options:",
    "  -t, --template <TEMPLATE>        Template describing the ids to build",
    "  -d, --data <KEY=VALUE>           Binds a value to a template variable (repeatable)",
    "  -n, --number <N>                 Number of ids to generate",
    "      --max-attempts <N>           Maximum number of candidates built before giving up",
    "      --seed <N>                   Seed for the random fragments",
    "      --settings <FILE>            JSON file with settings; flags take precedence",
    "  -B, --blacklist                  Rejects ids containing a blacklisted word",
    "      --blacklist-file <FILE>      Word list used by --blacklist, one word per line",
    "  -P, --passwd                     Rejects ids that already exist as accounts",
    "      --passwd-file <FILE>         Account database used by --passwd",
    "  -S, --shell-cmd                  Rejects ids for which an external command succeeds",
    "      --shell-cmd-template <CMD>   Command run by --shell-cmd, '%s' is the candidate",
    "      --reject-pattern <REGEX>     Rejects ids matching a regular expression (repeatable)",
    "  -C, --columns                    Prints ids in columns",
    "  -W, --width <N>                  Line width used by --columns",
    "      --json                       Prints the generation report as JSON",
    "  -v, --verbose                    Increases log verbosity (-v, -vv, -vvv)",
    "  -h, --help                       Prints help",
    "  -V, --version                    Prints version",
    "",
    "Template language:",
    "  A template is a list of fragments separated by ':'. Every candidate is the",
    "  concatenation of what each fragment produces. Letters name variables bound",
    "  with -d, positions are 1-based.",
    "",
    "  a               value of variable a",
    "  =text           the literal text",
    "  a+ aaa+ a3+     1, 3, 3 random characters drawn from a",
    "  2a a,2          first 2 characters of a",
    "  a2              last 2 characters of a",
    "  2a4 a2,4        characters 2 to 4 of a",
    "  a2,             characters 2 to the end of a",
    "  a++ aaa++ a3++  counter of width 1, 3, 3 using the characters of a as digits",
    "",
    "  At most one counter is allowed. A fragment in brackets, e.g. [n++], is a",
    "  resolver: it is part of every candidate but does not keep the generation",
    "  going once the other fragments are exhausted.",
    ""]

def helpText : Text :=
  helpLines.flatMap fun line => line.toList ++ ['\n']

end CommandLine
end Moniker
