import Scriptwright.Language
import Scriptwright.Text.Search

/-!
Words that speak for a language, for simple or complex work, or for a library. A word counts once
when it stands anywhere in a text, even inside other words.
-/
namespace Scriptwright

structure KeywordCategory where
  name : String
  weight : Nat
  keywords : List String
deriving DecidableEq, Repr

/-- The weight of the category for every keyword in the text. -/
def KeywordCategory.score (category : KeywordCategory) (text : List Char) : Nat :=
  category.keywords.countP (Text.mentions text) * category.weight

structure Vocabulary where
  python : List KeywordCategory
  bash : List KeywordCategory
  simpleTriggers : List String
  mediumTriggers : List String
  complexTriggers : List String
  /-- Libraries in output order, each with the words that ask for it. -/
  libraryHints : List (String × List String)
deriving DecidableEq, Repr

namespace Vocabulary

def defaultWeight : Nat := 1

def categories (v : Vocabulary) : Language → List KeywordCategory
  | .python => v.python
  | .bash => v.bash

def weight (v : Vocabulary) (language : Language) (category : String) : Nat :=
  match (v.categories language).find? (·.name = category) with
  | some c => c.weight
  | none => defaultWeight

def score (v : Vocabulary) (language : Language) (text : List Char) : Nat :=
  (v.categories language).foldr (fun c total => c.score text + total) 0

def librariesFor (v : Vocabulary) (text : List Char) : List String :=
  (v.libraryHints.filter fun hint => hint.2.any (Text.mentions text)).map Prod.fst

def standardPython : List KeywordCategory := [
    ⟨"file_operations", 2, ["read", "write", "create", "delete", "copy", "move", "rename",
      "chmod"]⟩,
    ⟨"data_processing", 3, ["parse", "filter", "sort", "transform", "analyze", "convert", "merge",
      "csv", "data", "statistics"]⟩,
    ⟨"web_scraping", 3, ["scrape", "crawl", "download", "fetch", "request", "api", "json", "xml"]⟩,
    ⟨"database", 2, ["query", "insert", "update", "delete", "sql", "sqlite", "postgres", "mysql"]⟩,
    ⟨"gui_desktop", 3, ["tkinter", "qt", "gtk", "window", "dialog", "button", "menu", "interface"]⟩,
    ⟨"automation", 2, ["schedule", "cron", "automate", "batch", "monitor", "watch", "trigger"]⟩,
    ⟨"system", 1, ["subprocess", "process", "command", "execute", "run", "shell", "os"]⟩,
    ⟨"network", 2, ["http", "https", "ftp", "ssh", "socket", "requests", "urllib"]⟩,
    ⟨"math_science", 3, ["calculate", "compute", "numpy", "scipy", "matplotlib", "pandas",
      "statistics"]⟩,
    ⟨"machine_learning", 4, ["sklearn", "tensorflow", "pytorch", "model", "predict", "train",
      "classify"]⟩,
    ⟨"image_processing", 3, ["pillow", "opencv", "image", "photo", "resize", "crop", "filter"]⟩,
    ⟨"audio_video", 2, ["audio", "video", "ffmpeg", "convert", "encode", "decode", "stream"]⟩,
    ⟨"testing", 2, ["unittest", "pytest", "test", "assert", "mock", "fixture"]⟩,
    ⟨"logging", 1, ["log", "debug", "error", "warning", "info", "trace"]⟩]

def standardBash : List KeywordCategory := [
    ⟨"file_operations", 3, ["ls", "cp", "mv", "rm", "mkdir", "rmdir", "chmod", "chown", "find",
      "locate"]⟩,
    ⟨"text_processing", 4, ["grep", "sed", "awk", "cut", "sort", "uniq", "wc", "tr", "head",
      "tail"]⟩,
    ⟨"system_admin", 4, ["ps", "kill", "killall", "service", "systemctl", "crontab", "at",
      "nohup"]⟩,
    ⟨"network", 2, ["curl", "wget", "ping", "ssh", "scp", "rsync", "netstat", "ss"]⟩,
    ⟨"archive", 3, ["tar", "zip", "unzip", "gzip", "gunzip", "compress", "uncompress"]⟩,
    ⟨"monitoring", 3, ["top", "htop", "ps", "df", "du", "free", "iostat", "vmstat"]⟩,
    ⟨"package_management", 3, ["apt", "yum", "dnf", "pacman", "pip", "npm", "snap"]⟩,
    ⟨"git_vcs", 2, ["git", "svn", "commit", "push", "pull", "clone", "branch", "merge"]⟩,
    ⟨"backup", 3, ["backup", "sync", "mirror", "archive", "restore"]⟩,
    ⟨"environment", 2, ["export", "env", "set", "unset", "source", "alias"]⟩,
    ⟨"conditional", 2, ["if", "then", "else", "elif", "fi", "case", "while", "for", "until"]⟩,
    ⟨"nemo_integration", 4, ["nemo", "file manager", "context menu", "right click", "action"]⟩,
    ⟨"kde_connect", 4, ["kde connect", "phone", "mobile", "remote", "notification", "command"]⟩]

def standard : Vocabulary where
  python := standardPython
  bash := standardBash
  simpleTriggers := ["hello", "basic", "simple", "print", "echo"]
  mediumTriggers := ["function", "class", "loop", "condition", "if", "for", "while"]
  complexTriggers := ["algorithm", "optimization", "concurrent", "threading", "async",
      "machine learning", "ai", "neural", "deep learning", "tensorflow", "database", "sql", "api",
      "microservice", "gui", "interface", "qt", "tkinter"]
  libraryHints := [
    ("requests", ["api", "http", "web", "download"]),
    ("pandas", ["csv", "data", "analyze", "dataframe"]),
    ("numpy", ["math", "calculate", "array", "numeric"]),
    ("tkinter", ["gui", "window", "interface", "dialog"]),
    ("sqlite3", ["database", "sqlite", "db"]),
    ("json", ["json", "api", "parse"]),
    ("os", ["file", "directory", "path", "system"]),
    ("subprocess", ["command", "execute", "run", "process"]),
    ("logging", ["log", "debug", "error", "warning"])]

end Vocabulary

end Scriptwright
