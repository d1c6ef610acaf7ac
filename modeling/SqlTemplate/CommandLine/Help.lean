import SqlTemplate.CommandLine.Command

/-! Help texts. -/

namespace SqlTemplate.CommandLine.HelpTopic

def lines : HelpTopic → List String
  | root => [
    "sqlify - compile and run typed SQL templates",
    "",
    "USAGE:",
    "  sqlify <COMMAND> [OPTIONS]",
    "",
    "COMMANDS:",
    "  compile       Show the compiled text and parameters of a SQL file",
    "  schema        Show the entity extracted from a CREATE TABLE/VIEW file",
    "  run           Execute a SQL file against Postgres",
    "  help          Print help",
    "",
    "Run `sqlify <command> --help` for more."]
  | compile => [
    "USAGE:",
    "  sqlify compile <FILE>",
    "",
    "Placeholders are written as $(name) or $(name):type, where type is one of",
    "string, integer, float, boolean, date, json.",
    "",
    "OPTIONS:",
    "  -h, --help            Print help"]
  | schema => [
    "USAGE:",
    "  sqlify schema <FILE> [OPTIONS]",
    "",
    "OPTIONS:",
    "  --json                Print the entity as JSON",
    "  -h, --help            Print help"]
  | run => [
    "USAGE:",
    "  sqlify run <FILE> [OPTIONS]",
    "",
    "Schema files list the rows of their table or view.",
    "",
    "OPTIONS:",
    "  --config <FILE>       Config file path (default: sqlify.toml, optional)",
    "  --database <URL>      Override database.url from config (falls back to DATABASE_URL)",
    "  --arg <NAME=VALUE>    Argument for a placeholder; repeatable. JSON literals",
    "                        (numbers, true/false, null, objects) are decoded, anything",
    "                        else is passed as text",
    "  -h, --help            Print help"]

def text (topic : HelpTopic) : String :=
  String.join (topic.lines.map (· ++ "\n"))

end SqlTemplate.CommandLine.HelpTopic
