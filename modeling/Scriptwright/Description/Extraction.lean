import Scriptwright.Entity
import Scriptwright.Pattern.Search

/-!
Actions, objects and entities named in a text, found by search patterns.
-/
namespace Scriptwright.Description

def actionGroups : List (List String) := [
  ["read", "write", "create", "delete", "copy", "move", "rename", "list", "find", "search"],
  ["parse", "process", "analyze", "convert", "transform", "filter", "sort"],
  ["run", "execute", "start", "stop", "kill", "monitor", "check"],
  ["download", "upload", "request", "fetch", "scrape", "ping"],
  ["show", "display", "open", "close", "click", "select"],
  ["integrate", "install", "setup", "configure"]]

def objectGroups : List (List String) := [
  ["folder", "directory", "path", "location"],
  ["file", "database", "table", "list", "array", "dict", "json", "xml"],
  ["nemo", "kde", "browser", "editor", "terminal", "gui", "app"],
  ["api", "service", "server", "database", "web", "http", "ftp"]]

def objectExtensions : List String :=
  ["txt", "csv", "json", "xml", "pdf", "doc", "xls", "py", "sh", "js", "html", "css"]

def fileExtensions : List String := objectExtensions ++ ["log"]

def commandNames : List String :=
  ["ls", "cp", "mv", "rm", "mkdir", "chmod", "grep", "sed", "awk", "curl", "wget"]

def anyText (words : List String) : Pattern := .oneOf (words.map .text)

def actionPatterns : List Pattern := actionGroups.map .wholeWord

def fileNamePattern : Pattern :=
  .chain [.wordEdge, .someOf (.of [.word]), .text ".", anyText objectExtensions, .wordEdge]

def objectPatterns : List Pattern := fileNamePattern :: objectGroups.map .wholeWord

/-- A run of word characters, stars, dots and dashes up to its last extension. -/
def filePattern : Pattern :=
  .chain [.someOf (.of [.word, .one '*', .one '.', .one '-']), .text ".", anyText fileExtensions,
    .wordEdge]

def notBlank : CharSet := .not [.blank]

def urlPattern : Pattern :=
  .chain [.text "http", .optional (.text "s"), .text "://", .someOf notBlank]

def commandPattern : Pattern := .wholeWord commandNames

/-- Everything from a slash on, with a tilde or dot in front of it. -/
def pathPattern : Pattern :=
  .oneOf [.chain [.text "/", .run notBlank], .chain [.text "~/", .run notBlank],
    .chain [.text "./", .run notBlank]]

def entityPattern : EntityLabel → Pattern
  | .file => filePattern
  | .url => urlPattern
  | .command => commandPattern
  | .path => pathPattern

/-- Distinct matches of all patterns, pattern by pattern. -/
def distinctMatches (patterns : List Pattern) (text : List Char) : List String :=
  distinct (patterns.flatMap fun p => (p.findAll text).map fun f => String.ofList f.text)

def actions (text : List Char) : List String := distinctMatches actionPatterns text

def objects (text : List Char) : List String := distinctMatches objectPatterns text

def entitiesOf (label : EntityLabel) (text : List Char) : List Entity :=
  ((entityPattern label).findAll text).map fun f =>
    ⟨String.ofList f.text, label, f.start, f.stop, label.confidence⟩

/-- Every match of every label's pattern; spans of different labels may overlap. -/
def entities (text : List Char) : List Entity :=
  EntityLabel.all.flatMap fun label => entitiesOf label text

end Scriptwright.Description
