import Mathlib.Data.List.Nodup
import Mathlib.Data.String.Basic
import Scriptwright.Description.Analyzer
import Scriptwright.Proofs.Description.EntityScan
import Scriptwright.Proofs.Description.NormalForm

/-!
How much can be found in a description. Its normal form is at most twice as long as itself, and a
pattern finds no more in a text than the text has characters. In bytes, three letters are longer in
lower case than they are. One of them is the dotted capital I, of whose image only the first letter
is kept; only by the other two can a normal form outgrow its description.
-/
namespace Scriptwright

namespace Text

theorem length_le_utf8ByteSize (s : String) : s.toList.length ≤ s.utf8ByteSize := by
  have hchars : ∀ cs : List Char, cs.length ≤ String.utf8Len cs := by
    intro cs
    induction cs with
    | nil => exact Nat.le_refl 0
    | cons c cs ih =>
      have hc := c.utf8Size_pos
      rw [List.length_cons, String.utf8Len_cons]
      omega
  have hbytes := String.utf8ByteSize_ofList s.toList
  rw [String.ofList_toList] at hbytes
  rw [hbytes]
  exact hchars s.toList

theorem length_lowerOne_le (c : Char) : (lowerOne c).length ≤ 2 := by
  unfold lowerOne
  split
  · exact Nat.le_refl 2
  · exact Nat.le_succ 1

theorem length_lowercase_le (cs : List Char) : (lowercase cs).length ≤ 2 * cs.length := by
  suffices hfrom : ∀ before, (lowercaseFrom before [] cs).length ≤ 2 * cs.length from hfrom []
  induction cs with
  | nil => exact fun _ => Nat.le_refl 0
  | cons c cs ih =>
    intro before
    have hrest := ih (c :: before)
    have himage : (if c = 'Σ' then [lowerSigma before cs] else lowerOne c).length ≤ 2 := by
      split
      · exact Nat.le_succ 1
      · exact length_lowerOne_le c
    rw [lowercaseFrom, lowercaseFrom_eq, List.length_append, List.append_nil,
      List.reverse_reverse, List.length_cons]
    omega

/-- The letters with one letter for their lower case that is a byte longer than they are. -/
def isLengthened (c : Char) : Bool := c == 'Ⱥ' || c == 'Ⱦ'

theorem utf8Size_le_of_limits {c d : Char}
    (h : ∀ limit ∈ [0x80, 0x800, 0x10000], d.toNat < limit → c.toNat < limit) :
    c.utf8Size ≤ d.utf8Size := by
  have hone := h 0x80 (by decide)
  have htwo := h 0x800 (by decide)
  have hthree := h 0x10000 (by decide)
  unfold Char.toNat at hone htwo hthree
  unfold Char.utf8Size
  simp only [UInt32.le_iff_toNat_le, UInt32.toNat_ofNatLT]
  repeat' split
  all_goals omega

theorem byteLength_map_le {f : Char → Char} (h : ∀ c, (f c).utf8Size ≤ c.utf8Size)
    (cs : List Char) : byteLength (cs.map f) ≤ byteLength cs := by
  induction cs with
  | nil => exact Nat.le_refl _
  | cons c cs ih =>
    have hc := h c
    rw [List.map_cons, byteLength_cons, byteLength_cons]
    omega

set_option maxRecDepth 100000 in
/-- But for two rows, no image reaches a limit that the row is below. -/
theorem images_no_longer : (lowercaseRows.all fun row =>
    [(0x23a, 0x23a, 1, 0x2c65), (0x23e, 0x23e, 1, 0x2c66)].contains row ||
      [0x80, 0x800, 0x10000].all fun limit =>
        Nat.ble limit row.1 || Nat.blt (row.2.2.2 + (row.2.1 - row.1)) limit) = true := by
  decide

theorem utf8Size_mapByRows_le (c : Char) :
    (mapByRows lowercaseRows c).utf8Size ≤ c.utf8Size + (isLengthened c).toNat := by
  unfold mapByRows
  cases himage : rowImage lowercaseRows c.toNat with
  | none => exact Nat.le_add_right _ _
  | some image =>
    change (Char.ofNat image).utf8Size ≤ _
    obtain ⟨row, hrow, hfirst, hlast, -, rfl⟩ := exists_row_of_rowImage himage
    have hchecked := List.all_eq_true.mp images_no_longer row hrow
    rcases (Bool.or_eq_true _ _).mp hchecked with hlonger | hlimits
    · have hletter : c = 'Ⱥ' ∧ row.2.2.2 = 0x2c65 ∧ row.1 = 0x23a ∨
          c = 'Ⱦ' ∧ row.2.2.2 = 0x2c66 ∧ row.1 = 0x23e := by
        simp only [List.contains_iff_mem, List.mem_cons, List.not_mem_nil, or_false] at hlonger
        rcases hlonger with rfl | rfl
        · exact .inl ⟨Char.toNat_inj.mp (Nat.le_antisymm hlast hfirst), rfl, rfl⟩
        · exact .inr ⟨Char.toNat_inj.mp (Nat.le_antisymm hlast hfirst), rfl, rfl⟩
      rcases hletter with ⟨rfl, himage, hstart⟩ | ⟨rfl, himage, hstart⟩
      · rw [himage, hstart]
        decide
      · rw [himage, hstart]
        decide
    · apply Nat.le_trans _ (Nat.le_add_right _ _)
      apply utf8Size_le_of_limits
      intro limit hlimit hc
      have hbelow := List.all_eq_true.mp hlimits limit hlimit
      simp only [Nat.blt, Bool.or_eq_true, Nat.ble_eq] at hbelow
      have himage := toNat_ofNat_cases (row.2.2.2 + (c.toNat - row.1))
      omega

end Text

theorem nodup_distinct {α : Type} [BEq α] [LawfulBEq α] (items : List α) :
    (distinct items).Nodup := by
  suffices hfrom : ∀ seen : List α, seen.Nodup → (distinctFrom seen items).Nodup from
    hfrom [] List.nodup_nil
  induction items with
  | nil => exact fun seen hseen => List.nodup_reverse.mpr hseen
  | cons a items ih =>
    intro seen hseen
    unfold distinctFrom
    split
    · exact ih seen hseen
    · rename_i hnew
      refine ih (a :: seen) (List.nodup_cons.mpr ⟨?_, hseen⟩)
      rwa [List.contains_iff_mem] at hnew

theorem length_distinct_le {α : Type} [BEq α] [LawfulBEq α] (items : List α) :
    (distinct items).length ≤ items.length :=
  (nodup_distinct items).length_le_of_subset fun _ => mem_distinct.mp

theorem Pattern.length_findAll_le (pattern : Pattern) (text : List Char) :
    (pattern.findAll text).length ≤ text.length := by
  suffices hfrom : ∀ inRun resume stuck before offset,
      (pattern.findFrom inRun resume stuck before offset text).length ≤ text.length from
    hfrom _ _ _ _ _
  induction text with
  | nil => exact fun _ _ _ _ _ => Nat.le_refl 0
  | cons c cs ih =>
    intro inRun resume stuck before offset
    have hlater : ∀ resume stuck,
        (pattern.findFrom inRun resume stuck (some c) (offset + c.utf8Size) cs).length ≤
          cs.length := fun resume stuck => ih inRun resume stuck _ _
    unfold findFrom
    rw [List.length_cons]
    split
    · exact Nat.le_succ_of_le (hlater _ _)
    · split
      · exact Nat.le_succ_of_le (hlater _ _)
      · split
        · exact Nat.le_succ_of_le (hlater _ _)
        · exact Nat.succ_le_succ (hlater _ _)

section
variable {α β : Type} {f g : α → List β}

theorem length_flatMap_le {items : List α} {n : ℕ} (h : ∀ a, (f a).length ≤ n) :
    (items.flatMap f).length ≤ items.length * n := by
  induction items with
  | nil => exact Nat.zero_le _
  | cons a items ih =>
    have ha := h a
    rw [List.flatMap_cons, List.length_append, List.length_cons, Nat.succ_mul]
    omega

theorem length_flatMap_mono {items : List α} (h : ∀ a, (f a).length ≤ (g a).length) :
    (items.flatMap f).length ≤ (items.flatMap g).length := by
  induction items with
  | nil => exact Nat.le_refl 0
  | cons a items ih =>
    rw [List.flatMap_cons, List.flatMap_cons, List.length_append, List.length_append]
    exact Nat.add_le_add (h a) ih

end

namespace Description

theorem length_normalizeChars_le (cs : List Char) : (normalizeChars cs).length ≤ 2 * cs.length := by
  have hwords := (Text.unwords_words_sublist ((Text.lowercase cs).map keepOrSpace)).length_le
  rw [List.length_map, List.length_map] at hwords
  rw [normalizeChars_eq]
  exact hwords.trans (Text.length_lowercase_le cs)

theorem length_distinctMatches_le (patterns : List Pattern) (text : List Char) :
    (distinctMatches patterns text).length ≤ patterns.length * text.length := by
  refine (length_distinct_le _).trans (length_flatMap_le fun pattern => ?_)
  rw [List.length_map]
  exact pattern.length_findAll_le text

theorem length_entities_le (text : List Char) : (entities text).length ≤ 4 * text.length := by
  refine length_flatMap_le fun label => ?_
  rw [entitiesOf, List.length_map]
  exact Pattern.length_findAll_le _ text

theorem utf8Size_keepOrSpace_le (c : Char) : (keepOrSpace c).utf8Size ≤ c.utf8Size := by
  unfold keepOrSpace
  split
  · exact Nat.le_refl _
  · exact c.utf8Size_pos

/-- The mark that the dotted capital I leaves behind is no letter, so a space stands for it. -/
theorem byteLength_kept_lowerOne_le (c : Char) :
    Text.byteLength ((Text.lowerOne c).map keepOrSpace) ≤
      c.utf8Size + (Text.isLengthened c).toNat := by
  unfold Text.lowerOne
  split
  · rename_i hdotted
    rw [hdotted]
    decide
  · rw [List.map_singleton, Text.byteLength_cons]
    have hkept := utf8Size_keepOrSpace_le (Text.mapByRows Text.lowercaseRows c)
    exact hkept.trans (Text.utf8Size_mapByRows_le c)

theorem byteLength_kept_lowercase_le (cs : List Char) :
    Text.byteLength ((Text.lowercase cs).map keepOrSpace) ≤
      Text.byteLength cs + cs.countP Text.isLengthened := by
  suffices hfrom : ∀ before, Text.byteLength ((Text.lowercaseFrom before [] cs).map keepOrSpace) ≤
      Text.byteLength cs + cs.countP Text.isLengthened from hfrom []
  induction cs with
  | nil => exact fun _ => Nat.le_refl 0
  | cons c cs ih =>
    intro before
    have hrest := ih (c :: before)
    have himage : Text.byteLength ((if c = 'Σ' then [Text.lowerSigma before cs]
        else Text.lowerOne c).map keepOrSpace) ≤ c.utf8Size + (Text.isLengthened c).toNat := by
      split
      · rename_i hsigma
        rw [hsigma]
        unfold Text.lowerSigma
        split <;> decide
      · exact byteLength_kept_lowerOne_le c
    have hcount : (c :: cs).countP Text.isLengthened =
        (Text.isLengthened c).toNat + cs.countP Text.isLengthened := by
      cases hc : Text.isLengthened c <;> simp [hc, Nat.add_comm]
    rw [Text.lowercaseFrom, Text.lowercaseFrom_eq, List.append_nil, List.reverse_reverse,
      List.map_append, Text.byteLength_append, Text.byteLength_cons, hcount]
    omega

theorem byteLength_normalizeChars_le (cs : List Char) :
    Text.byteLength (normalizeChars cs) ≤ Text.byteLength cs + cs.countP Text.isLengthened := by
  rw [normalizeChars_eq, keptWords]
  have hwords := Text.byteLength_le_of_sublist
    (Text.unwords_words_sublist ((Text.lowercase cs).map keepOrSpace))
  apply hwords.trans
  apply Nat.le_trans _ (byteLength_kept_lowercase_le cs)
  apply Text.byteLength_map_le
  intro c
  split
  · exact c.utf8Size_pos
  · exact Nat.le_refl _

theorem two_mul_countP_isLengthened_le (cs : List Char) :
    2 * cs.countP Text.isLengthened ≤ Text.byteLength cs := by
  induction cs with
  | nil => exact Nat.le_refl 0
  | cons c cs ih =>
    rw [Text.byteLength_cons, List.countP_cons]
    split
    · rename_i hc
      simp only [Text.isLengthened, Bool.or_eq_true, beq_iff_eq] at hc
      have hsize : c.utf8Size = 2 := by
        rcases hc with rfl | rfl <;> rfl
      omega
    · omega

/-- A description that is taken is analysed by its normal form, which is longer than the limit by no
more bytes than the description has letters that grow in lower case and are kept whole: at most half
the limit. -/
theorem analyzed_bytes_le {v : Vocabulary} {description : String} {a : Analysis}
    (h : analyze v description = .ok a) :
    a = analyzeNormal v (normalize description).toList ∧
    (normalize description).utf8ByteSize ≤
      maxBytes + description.toList.countP Text.isLengthened ∧
    2 * (normalize description).utf8ByteSize ≤ 3 * maxBytes := by
  obtain ⟨hlimit, ha⟩ := analyze_eq_ok_iff.mp h
  have hbytes := byteLength_normalizeChars_le description.toList
  have hcount := two_mul_countP_isLengthened_le description.toList
  rw [Text.byteLength_toList] at hcount
  rw [Text.byteLength_ofList, Text.byteLength_toList, ← normalize] at hbytes
  refine ⟨?_, ?_, ?_⟩
  · rw [ha, normalize, String.toList_ofList]
  · omega
  · omega

/-- A description that ends in `n` letters that are longer in lower case. -/
def strokes (front : List Char) (n : Nat) : String := String.ofList (front ++ List.replicate n 'Ⱥ')

theorem lowercase_strokes {front : List Char} (h : ∀ c ∈ front, Text.IsLower c) (n : Nat) :
    Text.lowercase (front ++ List.replicate n 'Ⱥ') = front ++ List.replicate n 'ⱥ' := by
  suffices hfrom : ∀ before, Text.lowercaseFrom before [] (front ++ List.replicate n 'Ⱥ') =
      front ++ List.replicate n 'ⱥ' from hfrom []
  induction front with
  | nil =>
    have hletter : Text.lowerOne 'Ⱥ' = ['ⱥ'] := by decide
    induction n with
    | zero => exact fun _ => rfl
    | succ n ih =>
      intro before
      have hrest := ih ('Ⱥ' :: before)
      rw [List.nil_append] at hrest
      rw [List.nil_append, List.replicate_succ, Text.lowercaseFrom, Text.lowercaseFrom_eq, hrest,
        if_neg (by decide), hletter]
      rfl
  | cons c front ih =>
    intro before
    obtain ⟨hc, hfront⟩ := List.forall_mem_cons.mp h
    rw [List.cons_append, Text.lowercaseFrom, Text.lowercaseFrom_eq, if_neg hc.ne_sigma,
      hc.lowerOne_eq, ih hfront]
    rfl

theorem normalize_strokes {front : List Char} (h : ∀ c ∈ front, isNormalChar c = true) (n : Nat) :
    normalize (strokes front n) = String.ofList (front ++ List.replicate n 'ⱥ') := by
  have hletter : isNormalChar 'ⱥ' = true := by
    set_option maxRecDepth 10000 in decide
  have hnormal : ∀ c ∈ front ++ List.replicate n 'ⱥ', isNormalChar c = true := by
    intro c hc
    rcases List.mem_append.mp hc with hc | hc
    · exact h c hc
    · rw [List.eq_of_mem_replicate hc, hletter]
  have hkept : (front ++ List.replicate n 'ⱥ').map keepOrSpace =
      front ++ List.replicate n 'ⱥ' := by
    nth_rewrite 2 [← List.map_id (front ++ List.replicate n 'ⱥ')]
    apply List.map_congr_left
    intro c hc
    exact keepOrSpace_of_isNormalChar (hnormal c hc)
  have hlower := lowercase_strokes (fun c hc => (isNormalChar_iff.mp (h c hc)).2.2) n
  rw [normalize, strokes, String.toList_ofList, normalizeChars_eq, keptWords, hlower, hkept,
    unwords_words (isNormal_word hnormal)]

theorem utf8ByteSize_strokes (front : List Char) (n : Nat) :
    (strokes front n).utf8ByteSize = Text.byteLength front + n * 2 := by
  have hsize : 'Ⱥ'.utf8Size = 2 := rfl
  rw [strokes, ← Text.byteLength_ofList, Text.byteLength_append, Text.byteLength_replicate, hsize]

theorem utf8ByteSize_normalize_strokes {front : List Char}
    (h : ∀ c ∈ front, isNormalChar c = true) (n : Nat) :
    (normalize (strokes front n)).utf8ByteSize = Text.byteLength front + n * 3 := by
  have hsize : 'ⱥ'.utf8Size = 3 := rfl
  rw [normalize_strokes h, ← Text.byteLength_ofList, Text.byteLength_append,
    Text.byteLength_replicate, hsize]

/-- A description of nothing but such letters goes half as far again as the limit. -/
theorem strokes_reach_bound :
    let description := strokes [] 32768
    let a := analyzeNormal .standard (normalizeChars description.toList)
    analyze .standard description = .ok a ∧
    2 * (normalize description).utf8ByteSize = 3 * maxBytes ∧
    a = analyzeNormal .standard (normalize description).toList ∧
    (normalize description).utf8ByteSize ≤
      maxBytes + description.toList.countP Text.isLengthened := by
  intro description a
  have hanalyze : analyze .standard description = .ok a := by
    apply analyze_eq_ok_iff.mpr
    refine ⟨?_, rfl⟩
    rw [utf8ByteSize_strokes]
    decide
  obtain ⟨ha, hbytes, -⟩ := analyzed_bytes_le hanalyze
  refine ⟨hanalyze, ?_, ha, hbytes⟩
  rw [utf8ByteSize_normalize_strokes (by simp)]
  decide

theorem runs_of_forall {inside : Char → Bool} {text : List Char} (hne : text ≠ [])
    (h : ∀ c ∈ text, inside c = true) : Text.runs inside text = [⟨0, text⟩] := by
  have hstarts : (⟨none, text, 0⟩ : Place).StartsRun inside text [] :=
    ⟨(List.append_nil text).symm, rfl, h, rfl⟩
  exact Place.runs_of_startsRun hstarts hne

theorem path_mem_entities {text : List Char} (h : ∀ c ∈ '/' :: text, Text.isBlank c = false) :
    ⟨String.ofList ('/' :: text), .path, 0, Text.byteLength ('/' :: text),
      EntityLabel.path.confidence⟩ ∈ entities ('/' :: text) := by
  have hrun : Text.runs (isRunChar .path) ('/' :: text) = [⟨0, '/' :: text⟩] := by
    apply runs_of_forall (List.cons_ne_nil _ _)
    intro c hc
    simp [isRunChar, h c hc]
  have hpath : pick? .path ('/' :: text) = some ([], '/' :: text) := by
    simp [pick?, path?]
  refine List.mem_flatMap.mpr ⟨.path, by decide, ?_⟩
  rw [entitiesOf_eq, hrun]
  simp [entityIn?, hpath, Text.byteLength]

theorem slash_isNormalChar : ∀ c ∈ ['/'], isNormalChar c = true := by
  simp only [List.mem_singleton, forall_eq]
  decide

theorem path_mem_entities_strokes {v : Vocabulary} {n : Nat} {a : Analysis}
    (h : analyze v (strokes ['/'] n) = .ok a) :
    ∃ e ∈ a.entities, e.text = normalize (strokes ['/'] n) ∧ e.stop = 1 + n * 3 := by
  have hbytes := utf8ByteSize_normalize_strokes slash_isNormalChar n
  have hnormal := normalize_strokes slash_isNormalChar n
  have hchars : normalizeChars (strokes ['/'] n).toList = '/' :: List.replicate n 'ⱥ' :=
    String.ofList_injective hnormal
  rw [hnormal, ← Text.byteLength_ofList] at hbytes
  rw [entities_of_analyze h, hchars, hnormal]
  refine ⟨_, path_mem_entities ?_, rfl, hbytes⟩
  intro c hc
  rcases List.mem_cons.mp hc with rfl | hc
  · decide
  · rw [List.eq_of_mem_replicate hc]
    decide

/-- A description within the limit may have a normal form, and a path in it, beyond the limit. -/
theorem slashed_strokes_outgrow_limit :
    ∃ a, analyze .standard (strokes ['/'] 32767) = .ok a ∧
      maxBytes < (normalize (strokes ['/'] 32767)).utf8ByteSize ∧
      ∃ e ∈ a.entities, e.text = normalize (strokes ['/'] 32767) ∧ maxBytes < e.stop := by
  have hbytes := utf8ByteSize_normalize_strokes slash_isNormalChar 32767
  have hanalyze : analyze .standard (strokes ['/'] 32767) =
      .ok (analyzeNormal .standard (normalizeChars (strokes ['/'] 32767).toList)) := by
    apply analyze_eq_ok_iff.mpr
    refine ⟨?_, rfl⟩
    rw [utf8ByteSize_strokes]
    decide
  obtain ⟨e, he, htext, hstop⟩ := path_mem_entities_strokes hanalyze
  refine ⟨_, hanalyze, ?_, e, he, htext, ?_⟩
  · rw [hbytes]
    decide
  · rw [hstop]
    decide

end Description

end Scriptwright
