import OutlineTable.Text.Basic

/-! The help pages, one for each command. -/
namespace OutlineTable.Command

inductive Page
  | main
  | render
  | columns
  | config
  | configShow
  | configSetColumns
  deriving DecidableEq, Repr

namespace Page

def lines : Page → List String
  | .main => [
    "Usage: tagtable [OPTIONS] COMMAND [ARGS]...",
    "",
    "  Summarize tagged outline headings as a pipe table.",
    "",
    "Options:",
    "  --log-level [debug|info|warning|error]",
    "                                  Logging verbosity (default: warning)",
    "  --help                          Show this message and exit.",
    "",
    "Commands:",
    "  columns  Show how SPEC is parsed, one column per line.",
    "  config   Inspect or change stored defaults.",
    "  render   Render the headings of SOURCE (default: stdin) as a table."]
  | .render => [
    "Usage: tagtable render [OPTIONS] [SOURCE]",
    "",
    "  Render the headings of SOURCE (default: stdin) as a table.",
    "",
    "Options:",
    "  -c, --columns TEXT    Column spec, e.g. '%25todo(Todo)|done'",
    "  --ellipsis TEXT       Marker appended to truncated headings",
    "  --align / --no-align  Pad columns so they line up",
    "  --help                Show this message and exit."]
  | .columns => [
    "Usage: tagtable columns [OPTIONS] SPEC",
    "",
    "  Show how SPEC is parsed, one column per line.",
    "",
    "Options:",
    "  --normalize  Print the spec with default fields dropped",
    "  --help       Show this message and exit."]
  | .config => [
    "Usage: tagtable config [OPTIONS] COMMAND [ARGS]...",
    "",
    "  Inspect or change stored defaults.",
    "",
    "Options:",
    "  --help  Show this message and exit.",
    "",
    "Commands:",
    "  set-columns  Store SPEC as the default column spec.",
    "  show         Print the stored defaults."]
  | .configShow => [
    "Usage: tagtable config show [OPTIONS]",
    "",
    "  Print the stored defaults.",
    "",
    "Options:",
    "  --help  Show this message and exit."]
  | .configSetColumns => [
    "Usage: tagtable config set-columns [OPTIONS] SPEC",
    "",
    "  Store SPEC as the default column spec.",
    "",
    "Options:",
    "  --help  Show this message and exit."]

/-- Every line of a page ends in a line feed. -/
def text (page : Page) : Text :=
  page.lines.flatMap fun line => line.toList ++ ['\n']

end Page

end OutlineTable.Command
