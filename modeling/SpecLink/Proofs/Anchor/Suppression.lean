import SpecLink.Proofs.Anchor.Listing

/-!
# The document's own anchors

Anchors of the document's own published spec are not exported. The store sees to that in two ways:
naming the spec changes the anchors that are there, filing changes those that come later. It makes
no difference when the spec is named. Main statement: `suppress_anywhere`.
-/
namespace SpecLink.AnchorStore

/-- What the calls that look something up answer. -/
def answers : List Call → AnchorStore → List (Except Failure (List Candidate))
  | [], _ => []
  | .add c :: rest, store => answers rest (store.add c)
  | .find kind text :: rest, store =>
    ((find kind text).on store).1 :: answers rest ((find kind text).on store).2

/-- The candidate, without its export if it is of the spec of the given short name. -/
def unexport (shortname : String) (c : Candidate) : Candidate :=
  if shortname ≠ "" ∧ c.shortname? = some shortname then { c with exported := false } else c

@[simp] theorem unexport_text (shortname : String) (c : Candidate) :
    (unexport shortname c).text = c.text := by
  rw [unexport]
  split <;> rfl

@[simp] theorem unexport_kind (shortname : String) (c : Candidate) :
    (unexport shortname c).kind = c.kind := by
  rw [unexport]
  split <;> rfl

theorem unexport_empty (c : Candidate) : unexport "" c = c :=
  if_neg fun named => named.1 rfl

theorem withhold_eq {shortname : String} (named : shortname ≠ "") :
    withhold shortname = unexport shortname := by
  funext c
  rw [withhold, unexport]
  simp only [beq_iff_eq, ne_eq, named, not_false_eq_true, true_and]

/-- The short name that naming the document's spec leaves in a store without one. -/
def nameGiven (shortname : String) : Option String :=
  if Text.trim shortname = "" then none else some (Text.trim shortname)

section Suppress

variable {store : AnchorStore}

theorem suppress_eq (unnamed : store.ownShortname = none) (shortname : String) :
    store.suppress shortname =
      { store with
        ownShortname := nameGiven shortname
        anchors := store.anchors.map (unexport (Text.trim shortname)) } := by
  by_cases blank : Text.trim shortname = ""
  · rw [suppress, nameGiven, blank, if_pos rfl, ← unnamed, funext unexport_empty, List.map_id']
    rfl
  · have nonempty : ¬ (Text.trim shortname).isEmpty = true := by rwa [String.isEmpty_iff]
    rw [suppress, nameGiven, if_neg blank, ← withhold_eq blank]
    exact if_neg nonempty

theorem filed_suppress (unnamed : store.ownShortname = none) (shortname : String) (c : Candidate) :
    (store.suppress shortname).filed c = unexport (Text.trim shortname) (store.filed c) := by
  rw [suppress_eq unnamed, filed, filed, unnamed, nameGiven]
  by_cases blank : Text.trim shortname = ""
  · rw [if_pos blank, blank, unexport_empty]
  · rw [if_neg blank, ← withhold_eq blank]

/-- What comes later is treated like what is there. -/
theorem addAll_suppress (unnamed : store.ownShortname = none) (shortname : String)
    (cs : List Candidate) :
    (store.suppress shortname).addAll cs = (store.addAll cs).suppress shortname := by
  have filings : cs.map (store.suppress shortname).filed =
      (cs.map store.filed).map (unexport (Text.trim shortname)) := by
    rw [List.map_map]
    refine List.map_congr_left fun c _ => ?_
    rw [filed_suppress unnamed, Function.comp_apply]
  have later : (store.addAll cs).ownShortname = none := unnamed
  rw [suppress_eq later, addAll, filings, suppress_eq unnamed, addAll, List.map_append]

theorem opening_suppress (unnamed : store.ownShortname = none) (shortname key : String) :
    (store.suppress shortname).opening key = store.opening key := by
  rw [suppress_eq unnamed, opening, opening]

theorem suppress_loaded (store : AnchorStore) (shortname : String) (shards : List String) :
    ({ store with loaded := shards } : AnchorStore).suppress shortname =
      { store.suppress shortname with loaded := shards } := by
  rw [suppress, suppress]
  split <;> rfl

theorem opened_suppress (unnamed : store.ownShortname = none) (shortname key : String) :
    (store.suppress shortname).opened key = (store.opened key).suppress shortname := by
  have loaded : (store.suppress shortname).loaded = store.loaded := by rw [suppress_eq unnamed]
  have source : (store.suppress shortname).source = store.source := by rw [suppress_eq unnamed]
  rw [AnchorStore.opened, AnchorStore.opened, loaded, source]
  split
  · rfl
  · split
    next candidates read =>
      rw [addAll_suppress unnamed]
      exact (suppress_loaded _ shortname _).symm
    next => rfl

theorem matching_suppress (unnamed : store.ownShortname = none) (shortname : String)
    (kind : LinkKind) (text : String) : (store.suppress shortname).matching kind text =
      (store.matching kind text).map (unexport (Text.trim shortname)) := by
  -- Texts and kinds are what they were.
  have alike : ((fun c => c.text == text && kind.accepts c.kind) ∘
      unexport (Text.trim shortname)) = fun c => c.text == text && kind.accepts c.kind := by
    funext c
    rw [Function.comp_apply, unexport_text, unexport_kind]
  rw [suppress_eq unnamed, matching, matching, List.filter_map, alike]

/-- A lookup goes the same way, and answers with the same anchors but for their export. -/
theorem find_suppress (unnamed : store.ownShortname = none) (shortname : String) (kind : LinkKind)
    (text : String) : (find kind text).on (store.suppress shortname) =
      (((find kind text).on store).1.map (List.map (unexport (Text.trim shortname))),
        ((find kind text).on store).2.suppress shortname) := by
  have opened : (store.opened (LinkText.normalize text)).ownShortname = none := by
    rw [opened_ownShortname, unnamed]
  rw [find_on, find_on, opening_suppress unnamed, opened_suppress unnamed,
    matching_suppress opened]
  cases store.opening (LinkText.normalize text) <;> rfl

end Suppress

section Run

variable {store : AnchorStore}

theorem after_ownShortname (store : AnchorStore) (c : Call) :
    (c.after store).ownShortname = store.ownShortname := by
  cases c with
  | add c => rfl
  | find kind text => rw [Call.after, find_on, opened_ownShortname]

theorem run_ownShortname (calls : List Call) (store : AnchorStore) :
    (run calls store).ownShortname = store.ownShortname := by
  induction calls generalizing store with
  | nil => rfl
  | cons c rest ih => exact (ih (c.after store)).trans (after_ownShortname store c)

theorem after_suppress (unnamed : store.ownShortname = none) (shortname : String) (c : Call) :
    c.after (store.suppress shortname) = (c.after store).suppress shortname := by
  cases c with
  | add c => exact addAll_suppress unnamed shortname [c]
  | find kind text => rw [Call.after, find_suppress unnamed, Call.after]

/-- Naming the document's spec before some calls comes to the same as naming it after them. -/
theorem run_suppress (unnamed : store.ownShortname = none) (shortname : String)
    (calls : List Call) :
    run calls (store.suppress shortname) = (run calls store).suppress shortname := by
  induction calls generalizing store with
  | nil => rw [run, run, List.foldl_nil, List.foldl_nil]
  | cons c rest ih =>
    rw [run, List.foldl_cons, after_suppress unnamed]
    exact ih ((after_ownShortname store c).trans unnamed)

theorem answers_suppress (unnamed : store.ownShortname = none) (shortname : String)
    (calls : List Call) : answers calls (store.suppress shortname) =
      (answers calls store).map (Except.map (List.map (unexport (Text.trim shortname)))) := by
  induction calls generalizing store with
  | nil => rw [answers, answers, List.map_nil]
  | cons c rest ih =>
    have next := ih ((after_ownShortname store c).trans unnamed)
    cases c with
    | add c =>
      rw [Call.after, add] at next
      rw [answers, answers, add, add, addAll_suppress unnamed, next]
    | find kind text =>
      rw [Call.after] at next
      rw [answers, answers, List.map_cons, find_suppress unnamed, next]

/-- Wherever among some calls the document's spec is named, the store comes to be the same, and so do
its later answers: those that it has without the name, but for the export of the anchors of that
spec. -/
theorem suppress_anywhere (unnamed : store.ownShortname = none) (shortname : String)
    (before between later : List Call) :
    let name := Text.trim shortname
    let early := run between ((run before store).suppress shortname)
    let late := (run (before ++ between) store).suppress shortname
    let never := run (before ++ between) store
    early = late ∧
      answers later early = (answers later never).map (Except.map (List.map (unexport name))) ∧
      (run later early).anchors = (run later never).anchors.map (unexport name) := by
  intro name early late never
  have same : early = late := by
    have unnamedBefore : (run before store).ownShortname = none := by
      rw [run_ownShortname, unnamed]
    have joined : never = run between (run before store) := List.foldl_append
    rw [show late = never.suppress shortname from rfl, joined]
    exact run_suppress unnamedBefore shortname between
  have unnamedLater : never.ownShortname = none := by rw [run_ownShortname, unnamed]
  refine ⟨same, ?_, ?_⟩
  · rw [same]
    exact answers_suppress unnamedLater shortname later
  · have ended : (run later never).ownShortname = none := by rw [run_ownShortname, unnamedLater]
    rw [same, show late = never.suppress shortname from rfl, run_suppress unnamedLater,
      suppress_eq ended]

end Run

/-- Anchors of the spec `a` are not exported, whether they are there, come of a shard or are added
later. -/
theorem suppress_anywhere_crates :
    let store : AnchorStore := { source := crates }
    let own := boxesAnchor .dfn "a"
    let early := run [.find .maybe "box"] ((run [.add own] store).suppress " a ")
    early = (run [.add own, .find .maybe "box"] store).suppress " a " ∧
      answers [.add own, .find .maybe "Boxes"] early =
        [.ok [{ own with exported := false }, { boxesAnchor .value "a" with exported := false },
          boxesAnchor .dfn "b", { own with exported := false }]] := by
  intro store own early
  have unnamed : store.ownShortname = none := rfl
  obtain ⟨same, shown, -⟩ := suppress_anywhere unnamed " a " [.add own] [.find .maybe "box"]
    [.add own, .find .maybe "Boxes"]
  refine ⟨same, shown.trans ?_⟩
  decide +kernel

end SpecLink.AnchorStore
