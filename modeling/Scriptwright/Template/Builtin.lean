import Scriptwright.Template.BuiltinPython

/-!
The built-in Bash templates, and all built-in templates together.
-/
namespace Scriptwright.Template.Builtin

def commandsVariable : Variable :=
  .withDefault "commands" .array (.array []) "System commands the script calls"

namespace Bash

def basicSource : String := source [
  "#!/usr/bin/env bash",
  "#",
  "# \x7b\x7b description \x7d\x7d",
  "# Generated by scrypgen (\x7b\x7b complexity \x7d\x7d complexity).",
  "\x7b\x7b signature() \x7d\x7d",
  "# Dependencies: \x7b\x7b dependencies | join(sep=\", \") \x7d\x7d",
  "#",
  "",
  "set -e",
  "set -u",
  "set -o pipefail",
  "",
  "\x7b\x7b neon_colors() \x7d\x7d",
  "",
  "log_info() \x7b",
  "    echo -e \"$\x7bCYAN\x7d[INFO]$\x7bNC\x7d $*\"",
  "\x7d",
  "",
  "log_success() \x7b",
  "    echo -e \"$\x7bGREEN\x7d[SUCCESS]$\x7bNC\x7d $*\"",
  "\x7d",
  "",
  "log_error() \x7b",
  "    echo -e \"$\x7bRED\x7d[ERROR]$\x7bNC\x7d $*\" >&2",
  "\x7d",
  "",
  "cleanup() \x7b",
  "    local exit_code=$?",
  "    if [ \"$exit_code\" -ne 0 ]; then",
  "        log_error \"Script exited with status $exit_code\"",
  "    fi",
  "\x7d",
  "",
  "trap cleanup EXIT",
  "\x7b% if commands %\x7d",
  "\x7b\x7b bash_dependencies(commands=commands) \x7d\x7d",
  "\x7b% endif %\x7d",
  "main() \x7b",
  "    log_info \"Starting script execution\"",
  "\x7b% if commands %\x7d    check_dependencies",
  "\x7b% endif %\x7d",
  "\x7b\x7b main_logic | indent_block(width=4) \x7d\x7d",
  "",
  "    log_success \"Script completed successfully\"",
  "\x7d",
  "",
  "main \"$@\""]

def nemoActionSource : String := source [
  "#!/usr/bin/env bash",
  "#",
  "# \x7b\x7b description \x7d\x7d",
  "# Nemo file manager action: \x7b\x7b action_name \x7d\x7d",
  "\x7b\x7b signature() \x7d\x7d",
  "# Dependencies: \x7b\x7b dependencies | join(sep=\", \") \x7d\x7d",
  "#",
  "",
  "set -e",
  "",
  "\x7b\x7b neon_colors() \x7d\x7d",
  "",
  "ACTION_NAME=\x7b\x7b action_name | shell_quote \x7d\x7d",
  "",
  "HAS_ZENITY=false",
  "if command -v zenity &> /dev/null; then",
  "    HAS_ZENITY=true",
  "fi",
  "",
  "show_message() \x7b",
  "    local message=\"$1\"",
  "    if [ \"$HAS_ZENITY\" = true ]; then",
  "        zenity --info --title=\"$ACTION_NAME\" --text=\"$message\" --width=400",
  "    else",
  "        echo -e \"$\x7bGREEN\x7d[$ACTION_NAME]$\x7bNC\x7d $message\"",
  "    fi",
  "\x7d",
  "",
  "show_error() \x7b",
  "    local message=\"$1\"",
  "    if [ \"$HAS_ZENITY\" = true ]; then",
  "        zenity --error --title=\"$ACTION_NAME\" --text=\"$message\" --width=400",
  "    else",
  "        echo -e \"$\x7bRED\x7d[$ACTION_NAME]$\x7bNC\x7d $message\" >&2",
  "    fi",
  "\x7d",
  "",
  "process_single_file() \x7b",
  "    local file=\"$1\"",
  "\x7b\x7b file_logic | indent_block(width=4) \x7d\x7d",
  "    return 0",
  "\x7d",
  "",
  "process_files() \x7b",
  "    local processed=0",
  "    local failed=0",
  "    local file",
  "    for file in \"$@\"; do",
  "        if [ -e \"$file\" ] && process_single_file \"$file\"; then",
  "            processed=$((processed + 1))",
  "        else",
  "            echo -e \"$\x7bYELLOW\x7dSkipped:$\x7bNC\x7d $file\"",
  "            failed=$((failed + 1))",
  "        fi",
  "    done",
  "    show_message \"Processed: $processed, failed: $failed\"",
  "\x7d",
  "",
  "main() \x7b",
  "    if [ $# -eq 0 ]; then",
  "        show_error \"No files selected. Select files in Nemo and try again.\"",
  "        exit 1",
  "    fi",
  "    process_files \"$@\"",
  "\x7d",
  "",
  "main \"$@\""]

def kdeConnectSource : String := source [
  "#!/usr/bin/env bash",
  "#",
  "# \x7b\x7b description \x7d\x7d",
  "# KDE Connect command runner",
  "\x7b\x7b signature() \x7d\x7d",
  "# Dependencies: \x7b\x7b dependencies | join(sep=\", \") \x7d\x7d",
  "#",
  "",
  "set -e",
  "",
  "\x7b\x7b neon_colors() \x7d\x7d",
  "",
  "ORIGINAL_COMMAND=\x7b\x7b original_command | shell_quote \x7d\x7d",
  "DEVICE_NAME=\"$\x7bKDE_DEVICE_NAME:-phone\x7d\"",
  "LOG_FILE=\"$\x7bTMPDIR:-/tmp\x7d/kde_command_$$.log\"",
  "",
  "log_info() \x7b",
  "    echo -e \"$\x7bCYAN\x7d[KDE]$\x7bNC\x7d $*\"",
  "    echo \"[INFO] $*\" >> \"$LOG_FILE\"",
  "\x7d",
  "",
  "log_error() \x7b",
  "    echo -e \"$\x7bRED\x7d[KDE]$\x7bNC\x7d $*\" >&2",
  "    echo \"[ERROR] $*\" >> \"$LOG_FILE\"",
  "\x7d",
  "",
  "send_notification() \x7b",
  "    local title=\"$1\"",
  "    local message=\"$2\"",
  "    local urgency=\"$\x7b3:-normal\x7d\"",
  "    if command -v notify-send &> /dev/null; then",
  "        notify-send -u \"$urgency\" \"$title\" \"$message\"",
  "    fi",
  "    if command -v kdeconnect-cli &> /dev/null; then",
  "        kdeconnect-cli --name \"$DEVICE_NAME\" --ping-msg \"$title: $message\" 2> " ++
    "/dev/null || true",
  "    fi",
  "\x7d",
  "",
  "run_transformed_command() \x7b",
  "\x7b\x7b transformed_logic | indent_block(width=4) \x7d\x7d",
  "\x7d",
  "",
  "main() \x7b",
  "    log_info \"Running: $ORIGINAL_COMMAND\"",
  "    local exit_code=0",
  "    run_transformed_command || exit_code=$?",
  "",
  "    if [ \"$exit_code\" -eq 0 ]; then",
  "        send_notification \"Command succeeded\" \"$ORIGINAL_COMMAND\" low",
  "        log_info \"Command executed successfully\"",
  "    else",
  "        send_notification \"Command failed\" \"Exit code $exit_code\" critical",
  "        log_error \"Command failed with exit code $exit_code\"",
  "    fi",
  "",
  "    log_info \"Log saved to $LOG_FILE\"",
  "    return \"$exit_code\"",
  "\x7d",
  "",
  "main \"$@\""]

def basic : Template where
  name := "bash_basic"
  language := .bash
  category := Category.basic
  description := "Strict-mode Bash script with colored logging"
  content := basicSource
  parameters := [descriptionVariable, commandsVariable, mainLogicVariable]
  requirements := []
  compliant := true

def nemoAction : Template where
  name := "bash_nemo_action"
  language := .bash
  category := Category.nemoIntegration
  description := "Nemo file manager action handling the selected files"
  content := nemoActionSource
  parameters := [
    descriptionVariable,
    .needed "action_name" .string "Action label",
    .needed "file_logic" .string "Per-file logic"]
  requirements := ["zenity"]
  compliant := true

def kdeConnect : Template where
  name := "bash_kde_connect"
  language := .bash
  category := Category.kdeConnect
  description := "Command wrapper that reports results through KDE Connect"
  content := kdeConnectSource
  parameters := [
    descriptionVariable,
    .needed "original_command" .string "Command as typed on the phone",
    .needed "transformed_logic" .string "Commands run on the desktop"]
  requirements := ["notify-send"]
  compliant := true

end Bash

def all : List Template :=
  [Python.basic, Python.gui, Python.fileProcessing, Python.web, Bash.basic, Bash.nemoAction,
    Bash.kdeConnect]

end Scriptwright.Template.Builtin
