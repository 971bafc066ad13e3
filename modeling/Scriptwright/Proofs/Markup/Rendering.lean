import Scriptwright.Proofs.Markup.Outline
import Scriptwright.Proofs.Text.Search

/-!
Rendering a body of the simple form writes its parts. It fails exactly where a value does not fit
its part.
-/
namespace Scriptwright.Markup

theorem toOption_ok {ε α : Type} (a : α) : (.ok a : Except ε α).toOption = some a := rfl

theorem toOption_bind {ε α β : Type} (x : Except ε α) (f : α → Except ε β) :
    (x >>= f).toOption = x.toOption.bind fun a => (f a).toOption := by
  cases x <;> rfl

theorem toOption_map {ε α β : Type} (x : Except ε α) (f : α → β) :
    (x.map f).toOption = x.toOption.map f := by
  cases x <;> rfl

theorem toOption_mapM {ε α β : Type} (f : α → Except ε β) (items : List α) :
    (items.mapM f).toOption = items.mapM fun a => (f a).toOption := by
  induction items with
  | nil => rfl
  | cons a items ih =>
    rw [List.mapM_cons, List.mapM_cons, toOption_bind]
    simp only [toOption_bind, ih]
    rfl

theorem toOption_lookup (setting : Setting) (scope : Scope) (text name : String) :
    (lookup setting scope (.mk text name [])).toOption = scope.toLookup name := by
  unfold lookup stepKeys Scope.toLookup
  cases h : scope.get? name [] with
  | some v => simp [h, pure, Except.pure, bind, Except.bind, Except.toOption]
  | none =>
    simp only [List.map_nil, h, bind, Except.bind]
    split <;> rfl

theorem finish_eq {e : Expr} (h : e.isNegated = false) (v : Value) :
    Meaning.finish e false v = v := by
  unfold Meaning.finish
  rw [h]
  cases v <;> rfl

theorem toOption_value_variable {setting : Setting} {scope : Scope} {text name : String}
    {filters : List (String × ExprArguments)} (h : defaultValue setting scope filters = none) :
    (((Expr.mk (.variable (.mk text name [])) false filters).meaning setting scope).value
        false).toOption =
      (scope.toLookup name).bind fun v => (filterValue setting scope filters v).toOption := by
  rw [← toOption_lookup setting scope text]
  simp only [Expr.meaning, Operand.meaning, Meaning.ofParts, Meaning.ofSource, Expr.operand,
    Expr.isNegated, Meaning.start, h]
  cases lookup setting scope (.mk text name []) with
  | error e => rfl
  | ok v =>
    cases hv : filterValue setting scope filters v with
    | error e =>
      cases v <;> simp [hv, bind, Except.bind, Except.toOption]
    | ok w =>
      have hnegated :
          (Expr.mk (.variable (.mk text name [])) false filters).isNegated = false := rfl
      have hfinish := finish_eq hnegated w
      cases v <;> simp [hv, bind, Except.bind, Except.toOption, hfinish, pure, Except.pure]

theorem filterValue_singleton {setting : Setting} {scope : Scope} {filter : String}
    {arguments : ExprArguments} {values : Arguments} {f : Value → Arguments → Except Misuse Value}
    (hmark : Expr.isMark filter = false) (hf : filter? filter = some f)
    (hvalues : argumentValues setting scope arguments = .ok values) (v : Value) :
    (filterValue setting scope [(filter, arguments)] v).toOption = (f v values).toOption := by
  simp only [filterValue, hmark, applyFilter, hf, hvalues]
  cases f v values <;> rfl

theorem defaultValue_singleton {setting : Setting} {scope : Scope} {filter : String}
    {arguments : ExprArguments} (hmark : Expr.isMark filter = false) :
    defaultValue setting scope [(filter, arguments)] = none := by
  unfold defaultValue
  split
  · rename_i heq
    cases heq
    cases hmark
  · rfl

theorem argumentValues_int (setting : Setting) (scope : Scope) (name : String) (n : Int) :
    argumentValues setting scope [(name, .mk (.int n) false [])] = .ok [(name, .number (.int n))] :=
  rfl

theorem argumentValues_text (setting : Setting) (scope : Scope) (name text : String) :
    argumentValues setting scope [(name, .mk (.text text) false [])] = .ok [(name, .string text)] :=
  rfl

theorem toOption_filterValue (setting : Setting) (scope : Scope)
    {filters : List (String × ExprArguments)} {style : Style}
    (h : Style.ofFilters? filters = some style) :
    defaultValue setting scope filters = none ∧
      ∀ v, (filterValue setting scope filters v).toOption.map (·.display.toList) =
        style.show? v := by
  unfold Style.ofFilters? at h
  split at h
  · obtain rfl := Option.some.inj h
    exact ⟨rfl, fun v => rfl⟩
  · rename_i filter arguments
    unfold Style.ofFilter? at h
    split at h
    · rename_i width
      split at h
      · rename_i hwidth
        obtain rfl := Option.some.inj h
        refine ⟨defaultValue_singleton (by decide), fun v => ?_⟩
        rw [filterValue_singleton (by decide) rfl (argumentValues_int ..)]
        have hw := indentWidth_int hwidth
        cases v <;> simp [indentBlock, stringInput, hw, Style.show?, bind, Except.bind, pure,
          Except.pure, Except.toOption, Value.display, Script.indentBlock]
      · cases h
    · obtain rfl := Option.some.inj h
      refine ⟨defaultValue_singleton (by decide), fun v => ?_⟩
      rw [filterValue_singleton (by decide) rfl rfl]
      cases v <;> simp [stringInput, Style.show?, Except.map, Except.toOption, Value.display,
        Script.shellQuote]
    · obtain rfl := Option.some.inj h
      refine ⟨defaultValue_singleton (by decide), fun v => ?_⟩
      rw [filterValue_singleton (by decide) rfl rfl]
      cases v <;> simp [stringInput, Style.show?, Except.map, Except.toOption, Value.display]
    · obtain rfl := Option.some.inj h
      refine ⟨defaultValue_singleton (by decide), fun v => ?_⟩
      rw [filterValue_singleton (by decide) rfl rfl]
      cases v <;> simp [stringInput, Style.show?, Except.map, Except.toOption, Value.display,
        Script.className]
    · rename_i separator
      obtain rfl := Option.some.inj h
      refine ⟨defaultValue_singleton (by decide), fun v => ?_⟩
      rw [filterValue_singleton (by decide) rfl (argumentValues_text ..)]
      have hget : Entries.get? [("sep", Value.string separator)] "sep" = some (.string separator) :=
        rfl
      cases v <;> simp [joinItems, hget, Style.show?, bind, Except.bind, pure,
        Except.pure, Except.toOption, Value.display, Text.toList_joinWith, Function.comp_def]
    · cases h
  · cases h

theorem toOption_stringList (name : String) (v : Value) :
    (stringList [(name, v)] name).toOption = texts? v := by
  have hget : Entries.get? [(name, v)] name = some v := by simp [Entries.get?_cons]
  unfold stringList
  rw [hget]
  cases v with
  | array items =>
    simp only [texts?, toOption_mapM]
    congr 1
    funext item
    cases item <;> rfl
  | _ => rfl

theorem toOption_name (setting : Setting) (scope : Scope) {e : Expr} {name : String}
    (h : e.name? = some name) :
    ((e.meaning setting scope).value false).toOption = scope.toLookup name := by
  unfold Expr.name? at h
  split at h
  · obtain rfl := Option.some.inj h
    rw [toOption_value_variable rfl]
    cases scope.toLookup _ <;> rfl
  · cases h

theorem truth_name {setting : Setting} {scope : Scope} {e : Expr} {name : String}
    (h : e.name? = some name) :
    (e.meaning setting scope).truth false = .ok ((scope.toLookup name).any Value.isTruthy) := by
  rw [← toOption_name setting scope h]
  unfold Expr.name? at h
  split at h
  · simp only [Expr.meaning, Meaning.ofParts, Expr.operand]
    split
    · rename_i v hv
      rw [hv]
      rfl
    · rename_i cause hcause
      rw [hcause]
      rfl
  · cases h

theorem toOption_value_call (setting : Setting) (scope : Scope) (function : String)
    (arguments : ExprArguments) :
    (((Expr.mk (.call function arguments) false []).meaning setting scope).value false).toOption =
      (applyFunction function (argumentValues setting scope arguments)).toOption := by
  simp only [Expr.meaning, Operand.meaning, Meaning.ofParts, Meaning.ofSource, Expr.operand,
    Expr.isNegated, Meaning.start]
  cases applyFunction function (argumentValues setting scope arguments) with
  | error e => rfl
  | ok v => cases v <;> rfl

theorem toOption_applyFunction {function : String} {f : Arguments → Except Misuse Value}
    (h : function? function = some f) (arguments : Except Failure Arguments) :
    (applyFunction function arguments).toOption =
      arguments.toOption.bind fun values => (f values).toOption := by
  unfold applyFunction
  rw [h]
  cases arguments with
  | error e => rfl
  | ok values =>
    simp only [Except.toOption, Option.bind_some]
    cases f values <;> rfl

theorem toOption_argumentValues_name {setting : Setting} {scope : Scope} {e : Expr}
    {name : String} (h : e.name? = some name) (argument : String) :
    (argumentValues setting scope [(argument, e)]).toOption =
      (scope.toLookup name).map fun v => [(argument, v)] := by
  rw [← toOption_name setting scope h]
  simp only [argumentValues]
  cases (e.meaning setting scope).value false <;> rfl

theorem toOption_part (setting : Setting) (scope : Scope) {e : Expr} {part : Part}
    (h : e.part? = some part) :
    ((e.meaning setting scope).value false).toOption.map (·.display.toList) =
      part.write scope.toLookup := by
  unfold Expr.part? at h
  split at h
  · rename_i text name filters
    obtain ⟨style, hstyle, rfl⟩ := Option.map_eq_some_iff.mp h
    obtain ⟨hdefault, hshow⟩ := toOption_filterValue setting scope hstyle
    rw [toOption_value_variable hdefault, Option.map_bind]
    simp only [Function.comp_def, hshow]
    rfl
  · rw [toOption_value_call]
    split at h
    · obtain rfl := Option.some.inj h
      rfl
    · obtain rfl := Option.some.inj h
      rfl
    · rename_i e
      obtain ⟨name, hname, rfl⟩ := Option.map_eq_some_iff.mp h
      rw [toOption_applyFunction rfl, toOption_argumentValues_name hname]
      simp only [toOption_map, Option.bind_map, Function.comp_def, toOption_stringList, Part.write]
      cases scope.toLookup name with
      | none => rfl
      | some v => simp [Value.display, Function.comp_def]
    · rename_i e
      obtain ⟨name, hname, rfl⟩ := Option.map_eq_some_iff.mp h
      rw [toOption_applyFunction rfl, toOption_argumentValues_name hname]
      simp only [toOption_map, Option.bind_map, Function.comp_def, toOption_stringList, Part.write]
      cases scope.toLookup name with
      | none => rfl
      | some v => simp [Value.display, Function.comp_def]
    · cases h
  · cases h

theorem toLookup_turn (scope : Scope) (item : String) (key v : Value) (index count : Nat) :
    (scope.turn ⟨none, item, key, v, index, count⟩).toLookup = scope.toLookup.turn item v := by
  funext name
  unfold Scope.toLookup Lookup.turn Scope.turn Scope.get?
  by_cases hname : name = item
  · subst hname
    simp [Frame.get?, LoopState.get?, Entries.get?_nil, follow?]
  · have hne : item ≠ name := fun h => hname h.symm
    simp [Frame.get?, LoopState.get?, Entries.get?_nil, hname, hne]

theorem toOption_turns {scope : Scope} (body : Scope → Except Failure Progress)
    {write : LoopState → Option (List Char)}
    (hbody : ∀ state, (body (scope.turn state)).toOption =
      (write state).map fun text => ⟨String.ofList text, scope.turn state, .onward⟩)
    (states : List LoopState) (done : String) :
    (states.foldlM (turnOnce body) ⟨done, scope, .onward⟩).toOption =
      (states.mapM write).map fun texts =>
        ⟨done ++ String.ofList texts.flatten, scope, .onward⟩ := by
  induction states generalizing done with
  | nil => simp [pure, Except.pure, Except.toOption]
  | cons state states ih =>
    rw [List.foldlM_cons, toOption_bind, List.mapM_cons]
    have hturn : (turnOnce body ⟨done, scope, .onward⟩ state).toOption =
        (write state).map fun text => ⟨done ++ String.ofList text, scope, .onward⟩ := by
      unfold turnOnce
      simp only [toOption_bind, hbody]
      cases write state <;> rfl
    rw [hturn]
    cases write state with
    | none => rfl
    | some text =>
      simp only [Option.map_some, Option.bind_some, ih]
      cases states.mapM write <;> simp [String.append_assoc]

theorem toOption_turnPairs (container : String) (v : Value) :
    (turns container none v).toOption = (items? v).map fun items => items.map (.null, ·) := by
  unfold turns items?
  cases v <;> simp [Except.toOption]

theorem mapM_loopStates {α : Type} {item : String} {f : LoopState → Option α}
    {g : Value → Option α} (h : ∀ v index count, f ⟨none, item, .null, v, index, count⟩ = g v)
    (items : List Value) :
    (loopStates none item (items.map (.null, ·))).mapM f = items.mapM g := by
  unfold loopStates
  generalize (items.map ((.null, ·) : Value → Value × Value)).length = count
  generalize 0 = start
  induction items generalizing start with
  | nil => rfl
  | cons v items ih =>
    rw [List.map_cons, List.zipIdx_cons, List.map_cons, List.mapM_cons, List.mapM_cons, ih, h]

theorem containerName?_of_name {e : Expr} {name : String} (h : e.name? = some name) :
    ∃ text, containerName? e.operand = some text := by
  unfold Expr.name? at h
  split at h
  · exact ⟨_, rfl⟩
  · cases h

mutual

/-- Rendering a node writes its part, changes no binding and goes onward. -/
theorem toOption_renderNode {setting : Setting} (hplain : setting.escaping = false)
    (scope : Scope) : (node : Node) → (part : Part) → node.part? = some part →
    (renderNode setting scope node).toOption =
      (part.write scope.toLookup).map fun text => ⟨String.ofList text, scope, .onward⟩
  | .text content, part, h => by
    obtain rfl := Option.some.inj h
    rfl
  | .output _ e, part, h => by
    rw [← toOption_part setting scope h, renderNode, hplain, toOption_bind]
    cases (e.meaning setting scope).value false with
    | error cause => rfl
    | ok v => simp [Except.toOption, pure, Except.pure]
  | .branch _ condition yes (.finish _), part, h => by
    obtain ⟨name, hname, h⟩ := Option.bind_eq_some_iff.mp h
    obtain ⟨body, hbody, h⟩ := Option.bind_eq_some_iff.mp h
    obtain rfl := Option.some.inj h
    rw [renderNode, hplain, truth_name hname, Part.write]
    cases (scope.toLookup name).any Value.isTruthy with
    | true => exact toOption_renderNodes hplain scope yes body hbody
    | false => rfl
  | .loop _ none item container body [] _, part, h => by
    obtain ⟨name, hname, h⟩ := Option.bind_eq_some_iff.mp h
    obtain ⟨parts, hparts, h⟩ := Option.bind_eq_some_iff.mp h
    obtain rfl := Option.some.inj h
    obtain ⟨text, htext⟩ := containerName?_of_name hname
    have hbody := fun state => toOption_renderNodes hplain (scope.turn state) body parts hparts
    have hturns : ∀ v index count,
        writeAll (scope.turn ⟨none, item, .null, v, index, count⟩).toLookup parts =
          writeAll (scope.toLookup.turn item v) parts := by
      intro v index count
      rw [toLookup_turn]
    rw [renderNode, htext]
    simp only [toOption_bind, toOption_name setting scope hname]
    simp only [Part.write]
    cases scope.toLookup name with
    | none => rfl
    | some v =>
      have hpairs := toOption_turnPairs text v
      simp only [toOption_ok, Option.bind_some]
      cases hitems : items? v with
      | none =>
        rw [hitems] at hpairs
        rw [hpairs]
        rfl
      | some items =>
        rw [hitems] at hpairs
        rw [hpairs]
        simp only [Option.map_some, Option.bind_some]
        cases items with
        | nil => rfl
        | cons first items =>
          have hfold := toOption_turns (fun scope => renderNodes setting scope body) hbody
            (loopStates none item ((first :: items).map (.null, ·))) ""
          rw [mapM_loopStates hturns] at hfold
          simp only [List.map_cons, toOption_bind] at hfold ⊢
          rw [hfold, Option.bind_eq_bind, Option.bind_some]
          cases (first :: items).mapM fun v => writeAll (scope.toLookup.turn item v) parts with
          | none => rfl
          | some texts => simp [Except.toOption, pure, Except.pure]
  | .raw _ _ _, _, h => by cases h
  | .comment _, _, h => by cases h
  | .assign _ _ _ _, _, h => by cases h
  | .branch _ _ _ (.elif _ _ _ _), _, h => by cases h
  | .branch _ _ _ (.otherwise _ _ _), _, h => by cases h
  | .loop _ (some _) _ _ _ _ _, _, h => by cases h
  | .loop _ none _ _ _ (_ :: _) _, _, h => by cases h
  | .filtered _ _ _ _ _, _, h => by cases h
  | .skip _, _, h => by cases h
  | .leave _, _, h => by cases h

theorem toOption_renderNodes {setting : Setting} (hplain : setting.escaping = false)
    (scope : Scope) : (nodes : List Node) → (parts : List Part) → outline? nodes = some parts →
    (renderNodes setting scope nodes).toOption =
      (writeAll scope.toLookup parts).map fun text => ⟨String.ofList text, scope, .onward⟩
  | [], parts, h => by
    obtain rfl := Option.some.inj h
    rfl
  | node :: nodes, parts, h => by
    obtain ⟨part, hpart, h⟩ := Option.bind_eq_some_iff.mp h
    obtain ⟨rest, hrest, h⟩ := Option.bind_eq_some_iff.mp h
    obtain rfl := Option.some.inj h
    rw [renderNodes, toOption_bind, toOption_renderNode hplain scope node part hpart, writeAll]
    cases part.write scope.toLookup with
    | none => rfl
    | some text =>
      simp only [Option.map_some, Option.bind_some, toOption_bind]
      rw [toOption_renderNodes hplain scope nodes rest hrest]
      cases writeAll scope.toLookup rest <;> simp [Except.toOption, pure, Except.pure]

end

end Scriptwright.Markup
