import Scriptwright.Proofs.Markup.Names

/-!
Rendering in scopes that agree. Text, course and failure are the same in both, and assignments keep
the scopes in agreement, so a body sees no values but those of the names that stand in it.
-/
namespace Scriptwright.Markup

/-- Computations that fail in the same way or give results that are related. -/
inductive Alike {ε α : Type} (R : α → α → Prop) : Except ε α → Except ε α → Prop
  | ok {a a' : α} (h : R a a') : Alike R (.ok a) (.ok a')
  | error (e : ε) : Alike R (.error e) (.error e)

namespace Alike

variable {ε α β : Type} {R : α → α → Prop} {S : β → β → Prop}

theorem bind {x x' : Except ε α} {f f' : α → Except ε β} (hx : Alike R x x')
    (hf : ∀ a a', R a a' → Alike S (f a) (f' a')) : Alike S (x >>= f) (x' >>= f') := by
  cases hx with
  | ok h => exact hf _ _ h
  | error e => exact error e

theorem bind_left {x : Except ε α} {f f' : α → Except ε β} (hf : ∀ a, Alike S (f a) (f' a)) :
    Alike S (x >>= f) (x >>= f') := by
  cases x with
  | ok a => exact hf a
  | error e => exact error e

theorem foldlM {γ : Type} {f f' : α → γ → Except ε α}
    (hf : ∀ a a' c, R a a' → Alike R (f a c) (f' a' c)) (cs : List γ) {a a' : α} (h : R a a') :
    Alike R (cs.foldlM f a) (cs.foldlM f' a') := by
  induction cs generalizing a a' with
  | nil => exact ok h
  | cons c cs ih => exact bind (hf a a' c h) fun _ _ h => ih h

theorem map_eq {x x' : Except ε α} {f : α → β} (h : Alike R x x')
    (hf : ∀ a a', R a a' → f a = f a') : x.map f = x'.map f := by
  cases h with
  | ok h => exact congrArg Except.ok (hf _ _ h)
  | error e => rfl

end Alike

/-- The same text and course in scopes that agree. -/
structure Progress.Agree (names : List String) (p p' : Progress) : Prop where
  text : p.text = p'.text
  course : p.course = p'.course
  scope : p.scope.Agree names p'.scope

section Rendering

variable {names : List String} (setting : Setting)

theorem alike_turnOnce {body body' : Scope → Except Failure Progress}
    (hbody : ∀ {s s' : Scope}, s.Agree names s' →
      Alike (Progress.Agree names) (body s) (body' s'))
    {p p' : Progress} (h : p.Agree names p') (l : LoopState) :
    Alike (Progress.Agree names) (turnOnce body p l) (turnOnce body' p' l) := by
  have hturn : Alike (Progress.Agree names)
      (body (p.scope.turn l) >>= fun q => .ok ⟨p.text ++ q.text, q.scope.around, q.course⟩)
      (body' (p'.scope.turn l) >>= fun q => .ok ⟨p'.text ++ q.text, q.scope.around, q.course⟩) :=
    (hbody (h.scope.turn l)).bind fun q q' hq =>
      .ok ⟨by rw [h.text, hq.text], hq.course, hq.scope.around⟩
  unfold turnOnce
  rw [← h.course]
  cases p.course with
  | leave => exact .ok h
  | onward => exact hturn
  | skip => exact hturn

theorem alike_requireLoop {s s' : Scope} (h : s.Agree names s') (word : String) (course : Course) :
    Alike (Progress.Agree names) (requireLoop s word course) (requireLoop s' word course) := by
  unfold requireLoop
  rw [← h.frames]
  split
  · exact .ok ⟨rfl, rfl, h⟩
  · exact .error _

mutual

theorem alike_renderNode {s s' : Scope} (h : s.Agree names s') : (node : Node) →
    node.names ⊆ names →
      Alike (Progress.Agree names) (renderNode setting s node) (renderNode setting s' node)
  | .text _, _ | .raw _ _ _, _ | .comment _, _ => .ok ⟨rfl, rfl, h⟩
  | .output _ e, hnames => by
    rw [renderNode, renderNode, e.meaning_congr setting h hnames]
    exact .bind_left fun v => .ok ⟨rfl, rfl, h⟩
  | .assign _ everywhere name e, hnames => by
    rw [renderNode, renderNode, e.meaning_congr setting h hnames]
    refine .bind_left fun v => .ok ⟨rfl, rfl, ?_⟩
    cases everywhere with
    | true => exact h.assignOutside name v
    | false => exact h.assign name v
  | .branch _ condition yes rest, hnames => by
    obtain ⟨hfirst, hrest⟩ := List.append_subset.mp hnames
    obtain ⟨hcondition, hyes⟩ := List.append_subset.mp hfirst
    rw [renderNode, renderNode, condition.meaning_congr setting h hcondition]
    refine .bind_left fun holds => ?_
    cases holds with
    | true => exact alike_renderNodes h yes hyes
    | false => exact alike_renderAlternative h rest hrest
  | .loop _ key item container body empty _, hnames => by
    obtain ⟨hfirst, hempty⟩ := List.append_subset.mp hnames
    obtain ⟨hcontainer, hbody⟩ := List.append_subset.mp hfirst
    rw [renderNode, renderNode, container.meaning_congr setting h hcontainer]
    cases containerName? container.operand with
    | none => exact .error _
    | some name =>
      refine .bind_left fun _ => .bind_left fun v => .bind_left fun pairs => ?_
      cases pairs with
      | nil => exact alike_renderNodes h empty hempty
      | cons pair pairs =>
        have hstart : Progress.Agree names ⟨"", s, .onward⟩ ⟨"", s', .onward⟩ := ⟨rfl, rfl, h⟩
        refine (Alike.foldlM (fun p p' l hp => ?_) (loopStates key item (pair :: pairs))
          hstart).bind fun p p' hp => .ok ⟨hp.text, rfl, hp.scope⟩
        exact alike_turnOnce (fun hs => alike_renderNodes hs body hbody) hp l
  | .filtered _ filter arguments body _, hnames => by
    obtain ⟨harguments, hbody⟩ := List.append_subset.mp hnames
    rw [renderNode, renderNode]
    refine (alike_renderNodes h body hbody).bind fun p p' hp => ?_
    rw [← hp.text, argumentValues_congr setting hp.scope arguments harguments]
    split
    · exact .ok hp
    · exact .bind_left fun v => .ok ⟨rfl, hp.course, hp.scope⟩
  | .skip _, _ => alike_requireLoop h "continue" .skip
  | .leave _, _ => alike_requireLoop h "break" .leave

theorem alike_renderAlternative {s s' : Scope} (h : s.Agree names s') : (rest : Alternative) →
    rest.names ⊆ names →
      Alike (Progress.Agree names) (renderAlternative setting s rest)
        (renderAlternative setting s' rest)
  | .finish _, _ => .ok ⟨rfl, rfl, h⟩
  | .elif _ condition yes rest, hnames => by
    obtain ⟨hfirst, hrest⟩ := List.append_subset.mp hnames
    obtain ⟨hcondition, hyes⟩ := List.append_subset.mp hfirst
    rw [renderAlternative, renderAlternative, condition.meaning_congr setting h hcondition]
    refine .bind_left fun holds => ?_
    cases holds with
    | true => exact alike_renderNodes h yes hyes
    | false => exact alike_renderAlternative h rest hrest
  | .otherwise _ no _, hnames => alike_renderNodes h no hnames

theorem alike_renderNodes {s s' : Scope} (h : s.Agree names s') : (nodes : List Node) →
    nodeNames nodes ⊆ names →
      Alike (Progress.Agree names) (renderNodes setting s nodes) (renderNodes setting s' nodes)
  | [], _ => .ok ⟨rfl, rfl, h⟩
  | node :: nodes, hnames => by
    obtain ⟨hnode, hnodes⟩ := List.append_subset.mp hnames
    rw [renderNodes, renderNodes]
    refine (alike_renderNode h node hnode).bind fun p p' hp => ?_
    rw [← hp.course]
    cases p.course with
    | onward =>
      refine (alike_renderNodes hp.scope nodes hnodes).bind fun q q' hq => ?_
      exact .ok ⟨by rw [hp.text, hq.text], hq.course, hq.scope⟩
    | skip => exact .ok hp
    | leave => exact .ok hp

end

end Rendering

/-- What a template gives, a text or a failure, depends only on the names that stand in it. -/
theorem render_congr (name : String) {body : List Node} {values values' : Entries}
    (h : ∀ n ∈ nodeNames body, Entries.get? values n = Entries.get? values' n) :
    render name body values = render name body values' :=
  (alike_renderNodes _ (⟨rfl, h⟩ : Scope.Agree _ (.ofContext values) (.ofContext values')) body
    (List.Subset.refl _)).map_eq fun _ _ hp => hp.text

end Scriptwright.Markup
