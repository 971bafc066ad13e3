import Scriptwright.Document.Json

/-!
Values read again without a text in between. A value without repeated keys is its own reading at a
free place; at a place with a shape, a record is read field by field in the order of its
declaration, and only a null at an optional place is dropped.
-/
namespace Scriptwright

mutual

/-- No object inside the value has a key twice. -/
def Value.IsKeyed : Value → Prop
  | .array items => Value.ItemsKeyed items
  | .object entries => Value.EntriesKeyed entries
  | _ => True

def Value.ItemsKeyed : List Value → Prop
  | [] => True
  | v :: vs => v.IsKeyed ∧ Value.ItemsKeyed vs

def Value.EntriesKeyed : List (String × Value) → Prop
  | [] => True
  | (k, v) :: rest => k ∉ Entries.keys rest ∧ v.IsKeyed ∧ Value.EntriesKeyed rest

end

mutual

def Value.depth : Value → Nat
  | .array items => Value.itemsDepth items + 1
  | .object entries => Value.entriesDepth entries + 1
  | _ => 0

def Value.itemsDepth : List Value → Nat
  | [] => 0
  | v :: vs => max v.depth (Value.itemsDepth vs)

def Value.entriesDepth : List (String × Value) → Nat
  | [] => 0
  | (_, v) :: rest => max v.depth (Value.entriesDepth rest)

end

theorem Entries.set_of_not_mem {entries : Entries} {k : String} (h : k ∉ entries.keys)
    (v : Value) : entries.set k v = entries ++ [(k, v)] := by
  induction entries with
  | nil => rfl
  | cons entry rest ih =>
    obtain ⟨k', v'⟩ := entry
    obtain ⟨hne, hrest⟩ : k ≠ k' ∧ k ∉ Entries.keys rest := by simpa [Entries.keys] using h
    rw [Entries.set, if_neg (Ne.symm hne), ih hrest, List.cons_append]

namespace Document

mutual

/-- The tree that the text of a value has. -/
def JsonTree.ofValue : Value → JsonTree
  | .null => .null
  | .bool b => .bool b
  | .number n => .number (some n)
  | .string s => .text (some s)
  | .array items => .list (itemTrees items)
  | .object entries => .object (entryTrees entries)

def itemTrees : List Value → List JsonTree
  | [] => []
  | v :: vs => JsonTree.ofValue v :: itemTrees vs

def entryTrees : List (String × Value) → List (Option String × JsonTree)
  | [] => []
  | (k, v) :: rest => (some k, JsonTree.ofValue v) :: entryTrees rest

end

theorem exists_inner_room {depth room : Nat} (h : depth + 1 ≤ room) :
    ∃ inner, room = inner + 1 ∧ depth ≤ inner := by
  obtain ⟨more, rfl⟩ := Nat.exists_eq_add_of_le' h
  exact ⟨more + depth, rfl, Nat.le_add_left depth more⟩

mutual

theorem value?_ofValue : (v : Value) → {room : Nat} → v.IsKeyed → v.depth ≤ room →
    (JsonTree.ofValue v).value? room = some v
  | .null, _, _, _ | .bool _, _, _, _ | .number _, _, _, _ | .string _, _, _, _ => rfl
  | .array items, room, hkeyed, hroom => by
    rw [Value.IsKeyed] at hkeyed
    obtain ⟨room, rfl, hinner⟩ := exists_inner_room hroom
    have hitems := valueItems?_itemTrees items hkeyed hinner
    simp [JsonTree.ofValue, JsonTree.value?, hitems]
  | .object entries, room, hkeyed, hroom => by
    rw [Value.IsKeyed] at hkeyed
    obtain ⟨room, rfl, hinner⟩ := exists_inner_room hroom
    have hentries := valueEntries?_entryTrees entries [] hkeyed hinner
      fun _ _ => List.not_mem_nil
    simp [JsonTree.ofValue, JsonTree.value?, hentries]

theorem valueItems?_itemTrees : (vs : List Value) → {room : Nat} → Value.ItemsKeyed vs →
    Value.itemsDepth vs ≤ room → valueItems? room (itemTrees vs) = some vs
  | [], _, _, _ => rfl
  | v :: vs, room, hkeyed, hroom => by
    rw [Value.ItemsKeyed] at hkeyed
    rw [Value.itemsDepth] at hroom
    have hv := value?_ofValue v hkeyed.1 (Nat.le_trans (Nat.le_max_left _ _) hroom)
    have hvs := valueItems?_itemTrees vs hkeyed.2 (Nat.le_trans (Nat.le_max_right _ _) hroom)
    simp [itemTrees, valueItems?, hv, hvs]

theorem valueEntries?_entryTrees : (es : List (String × Value)) → (done : Entries) →
    {room : Nat} → Value.EntriesKeyed es → Value.entriesDepth es ≤ room →
    (∀ k ∈ Entries.keys es, k ∉ done.keys) →
    valueEntries? room done (entryTrees es) = some (done ++ es)
  | [], done, _, _, _, _ => by simp [entryTrees, valueEntries?]
  | (k, v) :: rest, done, room, hkeyed, hroom, hnew => by
    rw [Value.EntriesKeyed] at hkeyed
    rw [Value.entriesDepth] at hroom
    obtain ⟨hk, hv, hrest⟩ := hkeyed
    have hset := Entries.set_of_not_mem (hnew k List.mem_cons_self) v
    have hv := value?_ofValue v hv (Nat.le_trans (Nat.le_max_left _ _) hroom)
    have hnew' : ∀ k' ∈ Entries.keys rest, k' ∉ Entries.keys (done ++ [(k, v)]) := by
      intro k' hk'
      have hne : k' ≠ k := fun heq => hk (heq ▸ hk')
      simpa [Entries.keys, hne] using hnew k' (List.mem_cons_of_mem k hk')
    have hrest := valueEntries?_entryTrees rest (done ++ [(k, v)]) hrest
      (Nat.le_trans (Nat.le_max_right _ _) hroom) hnew'
    simp [entryTrees, valueEntries?, hv, hset, hrest]

end

/-- The record that a value holds. No text is in between, so no nesting is too deep. -/
def decode? {α : Type} (shape : Shape) (read : Value → Option α) (v : Value) : Option α :=
  ((JsonTree.ofValue v).shaped? 16 v.depth shape).map (·.getD .null) >>= read

/-- What a value is read as at a place of the shape; `levels` bounds the nesting of the shape. -/
def ReadAs (levels : Nat) (shape : Shape) (v : Value) (w : Option Value) : Prop :=
  ∀ room, v.depth ≤ room → (JsonTree.ofValue v).shaped? levels room shape = some w

/-- At a place of the shape the value is read as it is. -/
abbrev Fits (levels : Nat) (shape : Shape) (v : Value) : Prop := ReadAs levels shape v (some v)

variable {levels : Nat} {shape item : Shape}

theorem decode?_of_readAs {α : Type} {read : Value → Option α} {v w : Value}
    (h : ReadAs 16 shape v (some w)) : decode? shape read v = read w := by
  rw [decode?, h v.depth Nat.le.refl]
  rfl

theorem fits_text (s : String) : Fits (levels + 1) .text (.string s) := fun _ _ => rfl

theorem fits_choice (s : String) : Fits (levels + 1) .choice (.string s) := fun _ _ => rfl

theorem fits_truth (b : Bool) : Fits (levels + 1) .truth (.bool b) := fun _ _ => rfl

theorem fits_free {v : Value} (h : v.IsKeyed) : Fits (levels + 1) .free v := by
  intro room hroom
  have hv := congrArg (Option.map some) (value?_ofValue v h hroom)
  cases v <;> exact hv

theorem fits_entries {entries : Entries} (h : (Value.object entries).IsKeyed) :
    Fits (levels + 1) .entries (.object entries) := by
  intro room hroom
  exact congrArg (Option.map some) (value?_ofValue (.object entries) h hroom)

theorem ReadAs.defaulted {v : Value} {w : Option Value} (h : ReadAs levels shape v w) :
    ReadAs (levels + 1) (.defaulted shape) v w := by
  intro room hroom
  have hv := h room hroom
  cases v <;> exact hv

theorem readAs_optional_null : ReadAs (levels + 1) (.optional shape) .null none :=
  fun _ _ => rfl

theorem Fits.optional {v : Value} (h : Fits levels shape v) (hnull : v ≠ .null) :
    Fits (levels + 1) (.optional shape) v := by
  intro room hroom
  have hv := h room hroom
  cases v with
  | null => exact absurd rfl hnull
  | _ => exact hv

theorem convertAll_itemTrees {α : Type} {write write' : α → Value} {xs : List α} {room : Nat}
    (h : ∀ x ∈ xs, ReadAs levels item (write x) (some (write' x)))
    (hroom : Value.itemsDepth (xs.map write) ≤ room) :
    convertAll (JsonTree.shaped? levels room item) (itemTrees (xs.map write)) =
      some (xs.map write') := by
  induction xs with
  | nil => rfl
  | cons x xs ih =>
    obtain ⟨hx, hxs⟩ := List.forall_mem_cons.mp h
    rw [List.map_cons, Value.itemsDepth] at hroom
    have hhead := hx room (Nat.le_trans (Nat.le_max_left _ _) hroom)
    have htail := ih hxs (Nat.le_trans (Nat.le_max_right _ _) hroom)
    rw [List.map_cons, itemTrees, convertAll, hhead, htail]
    rfl

theorem ReadAs.list {α : Type} {write write' : α → Value} {xs : List α}
    (h : ∀ x ∈ xs, ReadAs levels item (write x) (some (write' x))) :
    ReadAs (levels + 1) (.list item) (.array (xs.map write)) (some (.array (xs.map write'))) := by
  intro room hroom
  obtain ⟨room, rfl, hinner⟩ := exists_inner_room hroom
  have hall := convertAll_itemTrees h hinner
  exact congrArg (Option.map fun vs => some (Value.array vs)) hall

theorem fits_strings (texts : List String) :
    Fits (levels + 2) (.list .text) (.strings texts) :=
  ReadAs.list fun text _ => fits_text text

inductive FieldsRead (levels : Nat) : List (String × Shape) → Entries → Entries → Prop
  | nil {fields : List (String × Shape)} : FieldsRead levels fields [] []
  | kept {k : String} {s : Shape} {v w : Value} {fields : List (String × Shape)}
      {es es' : Entries} (hread : ReadAs levels s v (some w))
      (hrest : FieldsRead levels fields es es') :
      FieldsRead levels ((k, s) :: fields) ((k, v) :: es) ((k, w) :: es')
  | dropped {k : String} {s : Shape} {v : Value} {fields : List (String × Shape)}
      {es es' : Entries} (hread : ReadAs levels s v none)
      (hrest : FieldsRead levels fields es es') :
      FieldsRead levels ((k, s) :: fields) ((k, v) :: es) es'
  | omitted {k : String} {s : Shape} {fields : List (String × Shape)} {es es' : Entries}
      (hrest : FieldsRead levels fields es es') : FieldsRead levels ((k, s) :: fields) es es'

theorem lookup_of_nodup {fields : List (String × Shape)} (h : (fields.map Prod.fst).Nodup) :
    ∀ f ∈ fields, fields.lookup f.1 = some f.2 := by
  induction fields with
  | nil => simp
  | cons f fields ih =>
    obtain ⟨hf, hfields⟩ := List.nodup_cons.mp h
    refine List.forall_mem_cons.mpr ⟨List.lookup_cons_self, fun g hg => ?_⟩
    have hne : g.1 ≠ f.1 := fun heq => hf (heq ▸ List.mem_map_of_mem hg)
    rw [List.lookup_cons, beq_eq_false_iff_ne.mpr hne]
    exact ih hfields g hg

theorem namedFields_cons {declared : List (String × Shape)} {es es' : Entries}
    {seen : List String} {room : Nat} {k : String} {s : Shape} {v : Value} {w : Option Value}
    (hlookup : declared.lookup k = some s) (hnew : k ∉ seen) (hread : ReadAs levels s v w)
    (hroom : v.depth ≤ room)
    (hrest : namedFields declared (JsonTree.shaped? levels room) false (k :: seen)
      (entryTrees es) = some es') :
    namedFields declared (JsonTree.shaped? levels room) false seen (entryTrees ((k, v) :: es)) =
      some (Entries.ofOption k id w ++ es') := by
  rw [entryTrees, namedFields, hlookup]
  simp [hnew, hread room hroom, hrest]

theorem unseen_cons {fields : List (String × Shape)} {seen : List String} {k : String}
    (hk : k ∉ fields.map Prod.fst) (hseen : ∀ f ∈ fields, f.1 ∉ seen) :
    ∀ f ∈ fields, f.1 ∉ k :: seen := by
  intro f hf
  have hne : f.1 ≠ k := fun heq => hk (heq ▸ List.mem_map_of_mem hf)
  simpa [hne] using hseen f hf

theorem FieldsRead.namedFields {fields declared : List (String × Shape)} {es es' : Entries}
    {seen : List String} {room : Nat} (h : FieldsRead levels fields es es')
    (hlookup : ∀ f ∈ fields, declared.lookup f.1 = some f.2)
    (hnodup : (fields.map Prod.fst).Nodup) (hseen : ∀ f ∈ fields, f.1 ∉ seen)
    (hroom : Value.entriesDepth es ≤ room) :
    namedFields declared (JsonTree.shaped? levels room) false seen (entryTrees es) = some es' := by
  induction h generalizing seen with
  | nil => rfl
  | omitted _ ih =>
    exact ih (List.forall_mem_cons.mp hlookup).2 (List.nodup_cons.mp hnodup).2
      (List.forall_mem_cons.mp hseen).2 hroom
  | kept hread _ ih | dropped hread _ ih =>
    obtain ⟨hk, hlookup⟩ := List.forall_mem_cons.mp hlookup
    obtain ⟨hnew, hseen⟩ := List.forall_mem_cons.mp hseen
    obtain ⟨hother, hnodup⟩ := List.nodup_cons.mp hnodup
    obtain ⟨hv, hes⟩ := Nat.max_le.mp hroom
    exact namedFields_cons hk hnew hread hv (ih hlookup hnodup (unseen_cons hother hseen) hes)

theorem ReadAs.record {fields : List (String × Shape)} {es es' : Entries}
    (hnodup : (fields.map Prod.fst).Nodup) (h : FieldsRead levels fields es es') :
    ReadAs (levels + 1) (.record fields) (.object es) (some (.object es')) := by
  intro room hroom
  obtain ⟨room, rfl, hinner⟩ := exists_inner_room hroom
  have hnamed := h.namedFields (lookup_of_nodup hnodup) hnodup (fun _ _ => List.not_mem_nil) hinner
  exact congrArg (Option.map fun es => some (Value.object es)) hnamed

end Document

namespace Value

theorem asList?_map {α : Type} {read : Value → Option α} {write : α → Value} {xs : List α}
    (h : ∀ x ∈ xs, read (write x) = some x) : asList? read (.array (xs.map write)) = some xs := by
  rw [asList?]
  induction xs with
  | nil => rfl
  | cons x xs ih =>
    obtain ⟨hx, hxs⟩ := List.forall_mem_cons.mp h
    rw [List.map_cons, List.mapM_cons, hx, ih hxs]
    rfl

theorem asStrings?_strings (texts : List String) : (strings texts).asStrings? = some texts :=
  asList?_map fun _ _ => rfl

end Value

end Scriptwright
