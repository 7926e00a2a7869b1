import SpecLink.Linking
import SpecLink.Proofs.Resolver.Phases

/-!
# Collecting the definitions of elements

Elements are read one after the other, and one that is refused does not keep the others from the
index. Main statement: `claimed_of_collect`.
-/
namespace SpecLink.Resolver

open SpecLink.Action

/-- The resolver of a document still collects definitions. -/
structure Collects (metadata : Metadata) (r : Resolver) : Prop where
  reached : Reachable metadata r
  phase : r.phase = .collecting

variable {metadata : Metadata} {r : Resolver}

theorem Collects.define (collects : Collects metadata r) (d : Definition) :
    Collects metadata ((define d).on r).2 := by
  refine ⟨collects.reached.call (.define d), ?_⟩
  rw [define_on_of_collecting collects.phase]
  exact collects.phase

theorem Collects.define_ne_phase (collects : Collects metadata r) (d : Definition)
    (fault : PhaseFault) : ((Resolver.define d).on r).1 ≠ .error (.phase fault) := by
  have opened : r.definitions.isSealed = false := by
    rw [Bool.eq_false_iff, ne_eq, collects.reached.isSealed_iff, not_not]
    exact collects.phase
  rw [define_on_of_collecting collects.phase]
  exact DefinitionIndex.insert_ne_phase opened fault

theorem Collects.report (collects : Collects metadata r) (severity : Severity) (text : String)
    (line : Option UInt32) : Collects metadata (r.report severity text line) :=
  ⟨collects.reached.messages _, collects.phase⟩

/-- Whatever an element says, the collection goes on behind it. -/
theorem failsOnly_collectElement (el : Element) :
    FailsOnly (Collects metadata) (fun _ => False) (collectElement el) := by
  rw [collectElement]
  cases el.definition? with
  | error failure =>
    exact failsOnly_bind (failsOnly_modify fun r collects => collects.report _ _ _) fun _ =>
      failsOnly_pure 0
  | ok declared =>
    cases declared with
    | none => exact failsOnly_pure 0
    | some d =>
      intro s collects
      have kept := collects.define d
      have timely := collects.define_ne_phase d
      simp only [on_bind, on_attempt]
      split
      next => exact failsOnly_pure 1 _ kept
      next fault untimely => exact absurd untimely (timely fault)
      next =>
        exact failsOnly_bind (failsOnly_modify fun r collects => collects.report _ _ _)
          (fun _ => failsOnly_pure 0) _ kept

/-- What definitions and reports keep, the collection keeps. -/
theorem preserves_collectElement {holds : Resolver → Prop}
    (defines : ∀ d, Preserves holds (define d))
    (reports : ∀ r severity text line, holds r → holds (r.report severity text line))
    (el : Element) : Preserves holds (collectElement el) := by
  rw [collectElement]
  cases el.definition? with
  | error failure =>
    exact preserves_bind (preserves_modify fun r h => reports r _ _ _ h) fun _ => preserves_pure 0
  | ok declared =>
    cases declared with
    | none => exact preserves_pure 0
    | some d =>
      refine preserves_bind (preserves_attempt (defines d)) fun answer => ?_
      split
      next => exact preserves_pure 1
      next => exact preserves_throw _
      next =>
        exact preserves_bind (preserves_modify fun r h => reports r _ _ _ h) fun _ =>
          preserves_pure 0

theorem preserves_collect {holds : Resolver → Prop} (defines : ∀ d, Preserves holds (define d))
    (reports : ∀ r severity text line, holds r → holds (r.report severity text line))
    (els : List Element) (n : Nat) : Preserves holds
      (els.foldlM (fun n el => do return n + (← collectElement el)) n) :=
  preserves_foldlM (fun _ el => preserves_bind (preserves_collectElement defines reports el) fun _ =>
    preserves_pure _) els n

theorem preserves_reads_collect {anchors biblio : DataSource} (els : List Element) :
    Preserves (Reads anchors biblio) (collect els) :=
  preserves_collect (fun d _ reads => reads.run [.define d]) (fun _ _ _ _ reads => { reads with })
    els 0

theorem preserves_claimed_define (c : Candidate) (d : Definition) :
    Preserves (fun r : Resolver => DefinitionIndex.Claimed c r.definitions) (define d) := by
  refine preserves_bind preserves_get fun r => ?_
  simp only
  split
  · exact preserves_throw _
  · exact preserves_within fun s claimed => DefinitionIndex.preserves_claimed c d _ claimed

theorem failsOnly_collect (els : List Element) :
    FailsOnly (Collects metadata) (fun _ => False) (collect els) :=
  failsOnly_foldlM (fun n el =>
    failsOnly_bind (failsOnly_collectElement el) fun more => failsOnly_pure (n + more)) els 0

/-- What an element defines without an error is in the index once all elements are collected. -/
theorem claimed_of_collect (collects : Collects metadata r) (before after : List Element)
    {el : Element} {d : Definition} (declared : el.definition? = .ok (some d)) {n : Nat}
    (added : ((define d).on ((collect before).on r).2).1 = .ok n) :
    ∀ c ∈ d.candidates,
      DefinitionIndex.Claimed c ((collect (before ++ el :: after)).on r).2.definitions := by
  intro c member
  have collecting : FailsOnly (Collects metadata) (fun _ => False) (collect before) :=
    failsOnly_collect before
  obtain ⟨count, answered⟩ := collecting.answers collects
  obtain ⟨-, earlier⟩ := collecting r collects
  have ran : (collect before).on r = (.ok count, ((collect before).on r).2) :=
    Prod.ext answered rfl
  -- The element meets the resolver that the elements before it leave.
  have here : (collectElement el).on ((collect before).on r).2 =
      (.ok 1, ((define d).on ((collect before).on r).2).2) := by
    simp only [collectElement, declared, on_bind, on_attempt, added, on_pure]
  have claimed : DefinitionIndex.Claimed c
      ((define d).on ((collect before).on r).2).2.definitions := by
    rw [define_on_of_collecting earlier.phase] at added ⊢
    exact DefinitionIndex.claimed_of_insert added c member
  rw [collect] at ran ⊢
  rw [List.foldlM_append, on_bind, ran]
  simp only
  rw [List.foldlM_cons, on_bind, on_bind]
  rw [collect] at here
  rw [here]
  simp only [on_pure]
  exact preserves_collect (preserves_claimed_define c) (fun _ _ _ _ claimed => claimed) after
    (count + 1) _ claimed

end SpecLink.Resolver
