import Mathlib.Data.List.ProdSigma
import Scriptwright.Proofs.Pattern.Window

/-!
Forms of texts, as regular expressions over whole pieces. One search for windows covers every text
of a form: it follows all states that the search can be in between two pieces.
-/
namespace Scriptwright

inductive Form where
  | any
  | oneOf (texts : List (List Char))
  | seq (first second : Form)
  | either (left right : Form)
  | many (item : Form)

namespace Form

def Admits : Form → List Char → Prop
  | .any, _ => True
  | .oneOf texts, text => text ∈ texts
  | .seq first second, text => ∃ xs ys, text = xs ++ ys ∧ first.Admits xs ∧ second.Admits ys
  | .either left right, text => left.Admits text ∨ right.Admits text
  | .many item, text =>
    ∃ pieces : List (List Char), (∀ piece ∈ pieces, item.Admits piece) ∧ text = pieces.flatten

def exactly (text : List Char) : Form := .oneOf [text]

theorem admits_exactly (text : List Char) : (exactly text).Admits text := List.mem_cons_self

def rows (item : Form) (separator : List Char) : Form :=
  .either (exactly []) (.seq item (.many (.seq (exactly separator) item)))

theorem admits_rows {item : Form} {separator : List Char} {pieces : List (List Char)}
    (h : ∀ piece ∈ pieces, item.Admits piece) :
    (rows item separator).Admits (List.intercalate separator pieces) := by
  cases pieces with
  | nil => exact .inl (admits_exactly [])
  | cons piece pieces =>
    have hrest : ∀ p ∈ pieces, item.Admits p := fun p hp => h p (List.mem_cons_of_mem piece hp)
    refine .inr ⟨piece, (pieces.map (separator ++ ·)).flatten, ?_, h piece List.mem_cons_self,
      pieces.map (separator ++ ·), ?_, rfl⟩
    · rw [← List.flatMap_def]
      induction pieces generalizing piece with
      | nil => simp
      | cons next pieces ih =>
        have hnext := ih next (fun p hp => h p (by simp_all))
          (fun p hp => hrest p (List.mem_cons_of_mem next hp))
        rw [List.intercalate_cons_cons, hnext]
        simp
    · intro q hq
      obtain ⟨p, hp, rfl⟩ := List.mem_map.mp hq
      exact ⟨separator, p, rfl, admits_exactly separator, hrest p hp⟩

/-- All texts of the form, if they can be listed. -/
def texts? : Form → Option (List (List Char))
  | .oneOf texts => some texts
  | .seq first second => do
    let xs ← first.texts?
    let ys ← second.texts?
    return xs.flatMap fun x => ys.map (x ++ ·)
  | .either left right => do
    let xs ← left.texts?
    let ys ← right.texts?
    return xs ++ ys
  | .any | .many _ => none

theorem mem_texts {form : Form} {texts : List (List Char)} (h : form.texts? = some texts)
    {text : List Char} (htext : form.Admits text) : text ∈ texts := by
  induction form generalizing texts text with
  | any | many item => cases h
  | oneOf given =>
    obtain rfl := Option.some.inj h
    exact htext
  | seq first second ihfirst ihsecond =>
    obtain ⟨xs, hxs, h⟩ := Option.bind_eq_some_iff.mp h
    obtain ⟨ys, hys, h⟩ := Option.bind_eq_some_iff.mp h
    obtain rfl := Option.some.inj h
    obtain ⟨x, y, rfl, hx, hy⟩ := htext
    exact List.mem_flatMap.mpr ⟨x, ihfirst hxs hx, List.mem_map_of_mem (ihsecond hys hy)⟩
  | either left right ihleft ihright =>
    obtain ⟨xs, hxs, h⟩ := Option.bind_eq_some_iff.mp h
    obtain ⟨ys, hys, h⟩ := Option.bind_eq_some_iff.mp h
    obtain rfl := Option.some.inj h
    rcases htext with htext | htext
    · exact List.mem_append_left ys (ihleft hxs htext)
    · exact List.mem_append_right xs (ihright hys htext)

/-- Every text of the form contains the needle, in one of its pieces. -/
def contains (needle : List Char) : Form → Bool
  | .oneOf texts => texts.all (Text.occursIn needle)
  | .seq first second => first.contains needle || second.contains needle
  | .either left right => left.contains needle && right.contains needle
  | .any | .many _ => false

theorem infix_of_contains {needle : List Char} {form : Form} (h : form.contains needle = true)
    {text : List Char} (htext : form.Admits text) : needle <:+: text := by
  induction form generalizing text with
  | any | many item => cases h
  | oneOf texts => exact (Text.occursIn_iff needle text).mp (List.all_eq_true.mp h text htext)
  | seq first second ihfirst ihsecond =>
    obtain ⟨xs, ys, rfl, hxs, hys⟩ := htext
    rcases (Bool.or_eq_true _ _).mp h with h | h
    · exact List.infix_append_of_infix_left (ihfirst h hxs)
    · exact List.infix_append_of_infix_right (ihsecond h hys)
  | either left right ihleft ihright =>
    obtain ⟨hleft, hright⟩ := (Bool.and_eq_true _ _).mp h
    rcases htext with htext | htext
    · exact ihleft hleft htext
    · exact ihright hright htext

/-- Every text of the form begins with the opening, within its first piece. -/
def begins (opening : List Char) : Form → Bool
  | .oneOf texts => texts.all opening.isPrefixOf
  | .seq first _ => first.begins opening
  | .either left right => left.begins opening && right.begins opening
  | .any | .many _ => false

theorem prefix_of_begins {opening : List Char} {form : Form} (h : form.begins opening = true)
    {text : List Char} (htext : form.Admits text) : opening <+: text := by
  induction form generalizing text with
  | any | many item => cases h
  | oneOf texts => exact List.isPrefixOf_iff_prefix.mp (List.all_eq_true.mp h text htext)
  | seq first second ihfirst _ =>
    obtain ⟨xs, ys, rfl, hxs, -⟩ := htext
    exact (ihfirst h hxs).trans (List.prefix_append xs ys)
  | either left right ihleft ihright =>
    obtain ⟨hleft, hright⟩ := (Bool.and_eq_true _ _).mp h
    rcases htext with htext | htext
    · exact ihleft hleft htext
    · exact ihright hright htext

abbrev State := List Window

/-- Grows a set of states until `f` leads out of it nowhere. -/
def closure (f : List State → Option (List State)) : Nat → List State → Option (List State)
  | 0, _ => none
  | n + 1, states => do
    let next ← f states
    if next.all states.contains then some states else closure f n (states ∪ next)

theorem closure_spec {f : List State → Option (List State)} {n : Nat} {states last : List State}
    (h : closure f n states = some last) :
    states ⊆ last ∧ ∃ next, f last = some next ∧ next ⊆ last := by
  induction n generalizing states with
  | zero => cases h
  | succ n ih =>
    obtain ⟨next, hnext, h⟩ := Option.bind_eq_some_iff.mp h
    split at h
    · rename_i hclosed
      obtain rfl := Option.some.inj h
      refine ⟨List.Subset.refl _, next, hnext, fun s hs => ?_⟩
      exact List.contains_iff_mem.mp (List.all_eq_true.mp hclosed s hs)
    · obtain ⟨hsub, hrest⟩ := ih h
      refine ⟨fun s hs => hsub ?_, hrest⟩
      exact List.mem_union_iff.mpr (.inl hs)

def rounds : Nat := 8

def ends (windows : List Window) : List (State × List Char) → Option (List State)
  | [] => some []
  | (pending, text) :: rest => do
    let next ← Window.scan windows pending text
    let others ← ends windows rest
    return others.insert next

theorem exists_scan_of_ends {windows : List Window} {starts : List (State × List Char)}
    {last : List State} (h : ends windows starts = some last) {pending : State}
    {text : List Char} (hstart : (pending, text) ∈ starts) :
    ∃ next ∈ last, Window.scan windows pending text = some next := by
  induction starts generalizing last with
  | nil => cases hstart
  | cons start rest ih =>
    obtain ⟨next, hnext, h⟩ := Option.bind_eq_some_iff.mp h
    obtain ⟨others, hothers, h⟩ := Option.bind_eq_some_iff.mp h
    obtain rfl := Option.some.inj h
    rcases List.mem_cons.mp hstart with rfl | hstart
    · exact ⟨next, List.mem_insert_self, hnext⟩
    · obtain ⟨found, hfound, hscan⟩ := ih hothers hstart
      exact ⟨found, List.mem_insert_of_mem hfound, hscan⟩

/-- The states behind a text of the form, from the states in front of it; nothing if the search may
find a window. -/
def exits (windows : List Window) : Form → List State → Option (List State)
  | .any, _ => none
  | .oneOf texts, states => ends windows (states ×ˢ texts)
  | .seq first second, states => (first.exits windows states).bind (second.exits windows)
  | .either left right, states => do
    let ls ← left.exits windows states
    let rs ← right.exits windows states
    return ls ∪ rs
  | .many item, states => closure (item.exits windows) rounds states

theorem exists_scan_of_exits {windows : List Window} {form : Form} {states last : List State}
    (h : form.exits windows states = some last) {text : List Char} (htext : form.Admits text)
    {pending : State} (hpending : pending ∈ states) :
    ∃ next ∈ last, Window.scan windows pending text = some next := by
  induction form generalizing states last text pending with
  | any => cases h
  | oneOf texts => exact exists_scan_of_ends h (List.mem_product.mpr ⟨hpending, htext⟩)
  | seq first second ihfirst ihsecond =>
    obtain ⟨between, hfirst, hsecond⟩ := Option.bind_eq_some_iff.mp h
    obtain ⟨xs, ys, rfl, hxs, hys⟩ := htext
    obtain ⟨mid, hmid, hscan⟩ := ihfirst hfirst hxs hpending
    obtain ⟨next, hnext, hscan'⟩ := ihsecond hsecond hys hmid
    exact ⟨next, hnext, by rw [Window.scan_append, hscan, Option.bind_some, hscan']⟩
  | either left right ihleft ihright =>
    obtain ⟨ls, hls, h⟩ := Option.bind_eq_some_iff.mp h
    obtain ⟨rs, hrs, h⟩ := Option.bind_eq_some_iff.mp h
    obtain rfl := Option.some.inj h
    rcases htext with htext | htext
    · obtain ⟨next, hnext, hscan⟩ := ihleft hls htext hpending
      exact ⟨next, List.mem_union_iff.mpr (.inl hnext), hscan⟩
    · obtain ⟨next, hnext, hscan⟩ := ihright hrs htext hpending
      exact ⟨next, List.mem_union_iff.mpr (.inr hnext), hscan⟩
  | many item ih =>
    obtain ⟨hstates, next, hnext, hclosed⟩ := closure_spec h
    obtain ⟨pieces, hpieces, rfl⟩ := htext
    replace hpending := hstates hpending
    clear hstates h
    -- piece by piece, the state stays in the closed set
    induction pieces generalizing pending with
    | nil => exact ⟨pending, hpending, rfl⟩
    | cons piece pieces ihpieces =>
      obtain ⟨mid, hmid, hscan⟩ := ih hnext (hpieces piece List.mem_cons_self) hpending
      obtain ⟨last', hlast', hscan'⟩ := ihpieces
        (fun p hp => hpieces p (List.mem_cons_of_mem piece hp)) (hclosed hmid)
      exact ⟨last', hlast', by
        rw [List.flatten_cons, Window.scan_append, hscan, Option.bind_some, hscan']⟩

end Form

end Scriptwright
