import Scriptwright.Shell.Regex.Reading
import Scriptwright.Shell.Utility.Basic

/-!
Expressions whose signs and operands are the arguments of a program.
-/
namespace Scriptwright.Shell.Utility.Reckoning

inductive Fault where
  | missing (behind : String)
  | unexpected (word : String)
  | closing (after : String)
  | zeroDivision
  | notInteger
  | regex (text : String)

def Fault.message : Fault → String
  | .missing word => "syntax error: missing argument after " ++ quoted word
  | .unexpected word => "syntax error: unexpected argument " ++ quoted word
  | .closing word => "syntax error: expecting ')' after " ++ quoted word
  | .zeroDivision => "division by zero"
  | .notInteger => "non-integer argument"
  | .regex text => text

structure Line where
  rest : List String
  last : String := ""

abbrev Asking := StateT Line (Except Fault)

def next : Asking String := do
  let l ← get
  match l.rest with
  | [] => throw (.missing l.last)
  | w :: rest =>
    set (⟨rest, w⟩ : Line)
    return w

def accept? (words : List String) : Asking (Option String) := do
  match (← get).rest with
  | w :: _ => if words.contains w then return some (← next) else return none
  | [] => return none

def isNull (v : String) : Bool :=
  match v.toList with
  | [] => true
  | '-' :: cs => !cs.isEmpty && cs.all (· == '0')
  | cs => cs.all (· == '0')

def number (v : String) : Asking Int :=
  match if v.startsWith "+" then none else integer? v with
  | some n => return n
  | none => throw .notInteger

def operators : List (List String) :=
  [["|"], ["&"], ["<", "<=", "=", "==", "!=", ">=", ">"], ["+", "-"], ["*", "/", "%"], [":"]]

def matching (text pattern : String) : Asking String := do
  match Regex.read false pattern with
  | .error f => throw (.regex (f.message false))
  | .ok r =>
    let hasGroup := Text.hasPart pattern "\\("
    let t : Regex.Subject := ⟨text.toList.toArray, false⟩
    match r.matchAt? t 0 with
    | none => return if hasGroup then "" else "0"
    | some m =>
      if hasGroup then
        match m.groups.lookup 1 with
        | some (low, high) => return String.ofList (t.slice low high)
        | none => return ""
      else return toString m.finish

def compared (operator a b : String) : Bool :=
  let order := match integer? a, integer? b with
    | some n, some m => compare n m
    | _, _ => if a = b then .eq else if a < b then .lt else .gt
  match operator with
  | "<" => order == .lt
  | "<=" => order != .gt
  | "=" | "==" => order == .eq
  | "!=" => order != .eq
  | ">=" => order != .lt
  | _ => order == .gt

/-- The value of an operator, unless it does not matter. -/
def applied (matters : Bool) (operator a b : String) : Asking String := do
  if !matters then return "0"
  match operator with
  | ":" => matching a b
  | "+" | "-" | "*" | "/" | "%" =>
    let x ← number a
    let y ← number b
    match operator with
    | "+" => return toString (x + y)
    | "-" => return toString (x - y)
    | "*" => return toString (x * y)
    | _ =>
      if y = 0 then throw .zeroDivision
      return toString (if operator = "/" then x.tdiv y else x.tmod y)
  | _ => return if compared operator a b then "1" else "0"

mutual

def row (matters : Bool) : Nat → List (List String) → Asking String
  | 0, _ => throw (.missing "")
  | fuel + 1, [] => operand matters fuel
  | fuel + 1, words :: tighter => do
    let first ← row matters fuel tighter
    rowRest matters fuel words tighter first

def rowRest (matters : Bool) : Nat → List String → List (List String) → String → Asking String
  | 0, _, _, value => return value
  | fuel + 1, words, tighter, value => do
    match ← accept? words with
    | none => return value
    | some operator =>
      let value ← match operator with
        | "|" => do
          let other ← row (matters && isNull value) fuel tighter
          pure (if !isNull value then value else if isNull other then "0" else other)
        | "&" => do
          let other ← row (matters && !isNull value) fuel tighter
          pure (if isNull value || isNull other then "0" else value)
        | _ => do
          let other ← row matters fuel tighter
          applied matters operator value other
      rowRest matters fuel words tighter value

def operand (matters : Bool) : Nat → Asking String
  | 0 => throw (.missing "")
  | fuel + 1 => do
    match ← next with
    | "+" => next
    | "length" => return toString (← operand matters fuel).length
    | "match" =>
      let text ← operand matters fuel
      matching text (← operand matters fuel)
    | "index" =>
      let text ← operand matters fuel
      let chars := (← operand matters fuel).toList
      return toString (((text.toList.findIdx? chars.contains).map (· + 1)).getD 0)
    | "substr" =>
      let text ← operand matters fuel
      let start ← operand matters fuel
      let length ← operand matters fuel
      match integer? start, integer? length with
      | some (.ofNat (s + 1)), some (.ofNat n) =>
        return String.ofList ((text.toList.drop s).take n)
      | _, _ => return ""
    | "(" =>
      let value ← row matters fuel operators
      match ← accept? [")"] with
      | some _ => return value
      | none => throw (.closing (← get).last)
    | ")" => throw (.unexpected ")")
    | word => return word

end

end Reckoning

open Reckoning in
def expr (arguments : List String) : Run Nat := do
  let words := match arguments with
    | "--" :: rest => rest
    | words => words
  if words.isEmpty then misused "expr" "missing operand" 2
  else
    match (row true (16 * words.length + 32) operators).run { rest := words } with
    | .error f =>
      let text := match f with
        | .unexpected ")" => "syntax error: unexpected ')'"
        | f => f.message
      complain ("expr: " ++ text)
      return 2
    | .ok (value, l) =>
      match l.rest with
      | extra :: _ =>
        complain ("expr: " ++ (Fault.unexpected extra).message)
        return 2
      | [] =>
        say (value ++ "\n")
        return if isNull value then 1 else 0

end Scriptwright.Shell.Utility
