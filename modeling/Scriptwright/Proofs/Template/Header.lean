import Scriptwright.Proofs.Text.Lines
import Scriptwright.Proofs.Text.Search
import Scriptwright.Template.Header

/-!
Reading a declaration of dependencies back. Names that stand between commas in a line behind the
mark are found again, if each of them can be told from what stands around it.
-/
namespace Scriptwright.Template

/-- A name that can stand in a list between commas. -/
structure IsListable (name : String) : Prop where
  ne_empty : name ≠ ""
  trimmed : Text.trim name.toList = name.toList
  no_comma : ',' ∉ name.toList
  no_feed : '\n' ∉ name.toList

def listed (names : List String) : List Char :=
  List.intercalate [',', ' '] (names.map String.toList)

variable {names : List String}

theorem splitAt_listed (h : ∀ name ∈ names, IsListable name) (hne : names ≠ []) :
    Text.splitAt (· == ',') (' ' :: listed names) = names.map fun name => ' ' :: name.toList := by
  unfold listed
  induction names with
  | nil => exact absurd rfl hne
  | cons name names ih =>
    have hname : ∀ c ∈ ' ' :: name.toList, (c == ',') = false := by
      intro c hc
      rcases List.mem_cons.mp hc with rfl | hc
      · decide
      · have hcomma : c ≠ ',' := fun e => (h name List.mem_cons_self).no_comma (e ▸ hc)
        simpa using hcomma
    cases names with
    | nil => simpa using Text.splitAt_of_not_mem hname
    | cons next names =>
      have hrest := ih (fun n hn => h n (List.mem_cons_of_mem name hn)) (List.cons_ne_nil _ _)
      simp only [List.map_cons] at hrest ⊢
      rw [List.intercalate_cons_cons, List.append_assoc, List.cons_append, List.cons_append,
        List.nil_append, ← List.cons_append, Text.splitAt_append hname (by decide), hrest]

theorem declaredNames_listed (h : ∀ name ∈ names, IsListable name) (hne : names ≠ []) :
    declaredNames (' ' :: listed names) = names := by
  have htrim : ∀ name ∈ names, Text.trim (' ' :: name.toList) = name.toList := by
    intro name hname
    rw [Text.trim_cons_blank (by decide), (h name hname).trimmed]
  have hkeep : ∀ cs ∈ names.map String.toList, (!cs.isEmpty) = true := by
    intro cs hcs
    obtain ⟨name, hname, rfl⟩ := List.mem_map.mp hcs
    simpa using (h name hname).ne_empty
  unfold declaredNames
  rw [splitAt_listed h hne, List.map_map]
  have hpieces : names.map (Text.trim ∘ fun name => ' ' :: name.toList) =
      names.map String.toList := List.map_congr_left htrim
  simp only [hpieces, List.filter_eq_self.mpr hkeep, List.map_map]
  exact List.map_id'' (fun _ => String.ofList_toList) names

theorem listed_ne_nil (h : ∀ name ∈ names, IsListable name) (hne : names ≠ []) :
    listed names ≠ [] := by
  obtain ⟨name, rest, rfl⟩ := List.exists_cons_of_ne_nil hne
  have hname := (h name List.mem_cons_self).ne_empty
  unfold listed
  cases rest with
  | nil => simpa using hname
  | cons next rest => simp [List.intercalate_cons_cons]

theorem getLast_listed (h : ∀ name ∈ names, IsListable name) :
    ∀ c ∈ (listed names).getLast?, Text.isBlank c = false := by
  induction names with
  | nil => exact fun c hc => by cases hc
  | cons name names ih =>
    have hrest : ∀ n ∈ names, IsListable n := fun n hn => h n (List.mem_cons_of_mem name hn)
    cases names with
    | nil =>
      have hname := (h name List.mem_cons_self).trimmed
      simp only [listed, List.map_cons, List.map_nil, List.intercalate_singleton]
      rw [← hname]
      exact Text.getLast?_trim name.toList
    | cons next names =>
      have hne := listed_ne_nil hrest (List.cons_ne_nil next names)
      have hsplit : listed (name :: next :: names) =
          name.toList ++ [',', ' '] ++ listed (next :: names) := by
        simp [listed, List.intercalate_cons_cons]
      rw [hsplit, List.getLast?_append_of_ne_nil _ hne]
      exact ih hrest

theorem not_feed_mem_listed (h : ∀ name ∈ names, IsListable name) : '\n' ∉ listed names := by
  unfold listed
  induction names with
  | nil => exact List.not_mem_nil
  | cons name names ih =>
    have hname := (h name List.mem_cons_self).no_feed
    have hrest := ih fun n hn => h n (List.mem_cons_of_mem name hn)
    cases names with
    | nil => simpa using hname
    | cons next names =>
      simp only [List.map_cons] at hrest ⊢
      rw [List.intercalate_cons_cons, List.mem_append, List.mem_append]
      rintro ((hfeed | hfeed) | hfeed)
      · exact hname hfeed
      · exact absurd hfeed (by decide)
      · exact hrest hfeed

def openings : List (List Char) :=
  [declarationMark ++ [' '], '#' :: ' ' :: declarationMark ++ [' ']]

theorem declaration?_listed {opening : List Char} (hopening : opening ∈ openings)
    (h : ∀ name ∈ names, IsListable name) :
    (declaration? (opening ++ listed names)).map declaredNames = some names := by
  by_cases hne : names = []
  · subst hne
    revert opening
    decide
  · have hmark : declarationMark = 'D' :: "ependencies:".toList := by decide
    have hlast : ∀ c ∈ (opening ++ listed names).getLast?, Text.isBlank c = false := by
      rw [List.getLast?_append_of_ne_nil _ (listed_ne_nil h hne)]
      exact getLast_listed h
    have hread : Text.dropOpening? declarationMark (declarationMark ++ ' ' :: listed names) =
        some (' ' :: listed names) := by
      simp [Text.dropOpening?]
    have hstart : Text.trimStart (declarationMark ++ ' ' :: listed names) =
        declarationMark ++ ' ' :: listed names := by
      rw [hmark]
      exact Text.trimStart_cons (by decide) _
    unfold declaration?
    simp only [openings, List.mem_cons, List.not_mem_nil, or_false] at hopening
    rcases hopening with rfl | rfl
    · have htrim : Text.trim (declarationMark ++ [' '] ++ listed names) =
          declarationMark ++ ' ' :: listed names := by
        rw [hmark] at hlast ⊢
        exact Text.trim_append_cons [] (by decide) _ hlast
      have hsigns : (declarationMark ++ ' ' :: listed names).dropWhile (· == '#') =
          declarationMark ++ ' ' :: listed names := by
        rw [hmark]
        rfl
      simp only [htrim, hsigns, hstart, hread, Option.map_some, declaredNames_listed h hne]
    · have htrim : Text.trim ('#' :: ' ' :: declarationMark ++ [' '] ++ listed names) =
          '#' :: ' ' :: (declarationMark ++ ' ' :: listed names) := by
        have hwhole := Text.trim_append_cons [] (by decide) _ hlast
        simpa [Text.trimStart] using hwhole
      have hsigns : ('#' :: ' ' :: (declarationMark ++ ' ' :: listed names)).dropWhile (· == '#') =
          ' ' :: (declarationMark ++ ' ' :: listed names) := rfl
      have hblank : Text.trimStart (' ' :: (declarationMark ++ ' ' :: listed names)) =
          Text.trimStart (declarationMark ++ ' ' :: listed names) := rfl
      simp only [htrim, hsigns, hblank, hstart, hread, Option.map_some, declaredNames_listed h hne]

/-- Behind lines that declare nothing, a line made of an opening and names is what counts. -/
theorem declaredDependencies?_eq {before opening rest : List Char}
    (hbefore : ∀ line ∈ Text.lines (before ++ ['\n']), declaration? line = none)
    (hopening : opening ∈ openings) (h : ∀ name ∈ names, IsListable name) :
    declaredDependencies?
      (String.ofList (before ++ '\n' :: (opening ++ listed names ++ '\n' :: rest))) =
      some names := by
  have hclosed : ∀ opening ∈ openings, '\n' ∉ opening ∧ '\r' ∉ opening.getLast? := by
    decide
  obtain ⟨hfeed, hreturn⟩ := hclosed opening hopening
  have hline : '\n' ∉ opening ++ listed names := by
    rw [List.mem_append]
    exact not_or.mpr ⟨hfeed, not_feed_mem_listed h⟩
  have hend : '\r' ∉ (opening ++ listed names).getLast? := by
    by_cases hne : names = []
    · subst hne
      simpa [listed] using hreturn
    · rw [List.getLast?_append_of_ne_nil _ (listed_ne_nil h hne)]
      intro hlast
      exact absurd (getLast_listed h _ hlast) (by decide)
  have hnone : (Text.lines (before ++ ['\n'])).findSome?
      (fun line => (declaration? line).map declaredNames) = none := by
    rw [List.findSome?_eq_none_iff]
    intro line hline
    rw [hbefore line hline, Option.map_none]
  unfold declaredDependencies?
  rw [String.toList_ofList, Text.lines_append, Text.lines_line_append hline hend,
    List.findSome?_append, hnone, Option.none_or, List.findSome?_cons,
    declaration?_listed hopening h]

end Scriptwright.Template
