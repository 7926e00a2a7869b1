import SpecLink.Linking
import SpecLink.Proofs.Index.Claims
import SpecLink.Proofs.Resolver.Run

/-!
# What refused definitions leave behind

An insertion that fails halfway is not undone. The candidates in front of the refused one stay in the
index, where links find them, and nobody counts them. Main statement: `left_of_refused`.
-/
namespace SpecLink

namespace DefinitionIndex

/-- The candidates that the insertions that fail leave behind. -/
def strays (index : DefinitionIndex) : List Definition → List Candidate
  | [] => []
  | d :: rest =>
    match (insert d).on index with
    | (.ok _, next) => next.strays rest
    | (.error _, next) => index.additions d ++ next.strays rest

variable {index : DefinitionIndex} {d : Definition} {failure : Failure}

/-- What an index gains is counted or left behind. -/
theorem length_insertAll (opened : index.isSealed = false) (ds : List Definition) :
    (index.insertAll ds).candidates.length + index.size =
      index.candidates.length + (index.insertAll ds).size + (index.strays ds).length := by
  induction ds generalizing index with
  | nil => rfl
  | cons d rest ih =>
    have step : index.insertAll (d :: rest) = ((insert d).on index).2.insertAll rest := rfl
    rw [step, strays]
    cases answer : ((insert d).on index).1 with
    | ok n =>
      obtain ⟨added, ran⟩ := insert_on_of_accepted opened answer
      have later := ih (insert_snd opened d).1
      rw [ran] at later ⊢
      simp only [List.length_append] at later ⊢
      omega
    | error failure =>
      have later := ih (insert_snd opened d).1
      rw [insert_on_of_failed opened answer] at later ⊢
      simp only [List.length_append] at later ⊢
      omega

theorem additions_eq_nil_iff : ({ index with
    candidates := index.candidates ++ index.additions d } : DefinitionIndex) = index ↔
      index.additions d = [] := by
  constructor
  · intro same
    simpa using congrArg DefinitionIndex.candidates same
  · intro none
    rw [none, List.append_nil]

end DefinitionIndex

open DefinitionIndex

/-- A bad definition is reported, and what its insertion left stays. -/
theorem Resolver.collectElement_of_failed {r : Resolver} (collecting : r.phase = .collecting)
    (opened : r.definitions.isSealed = false) {el : Element} {d : Definition}
    (declared : el.definition? = .ok (some d)) {failure : Failure}
    (failed : ((insert d).on r.definitions).1 = .error failure) :
    (collectElement el).on r = (.ok 0, ({ r with
      definitions := ((insert d).on r.definitions).2 } : Resolver).report .fatal failure.message
        el.line) := by
  have timely := @insert_ne_phase r.definitions d opened
  simp only [collectElement, declared, Action.on_bind, Action.on_attempt,
    define_on_of_collecting collecting, failed]
  split
  next other answered => cases answered
  next fault answered => exact absurd (failed.trans (by simpa using answered)) (timely fault)
  next answered =>
    obtain rfl := Except.error.inj answered
    rfl

namespace DefinitionIndex

/-- The candidates of a list that links of a kind find under a text. -/
def under (kind : LinkKind) (text : String) (cs : List Candidate) : List Candidate :=
  cs.filter fun c => c.text == LinkText.normalize text && kind.accepts c.kind

/-- What an insertion that fails changes, after any insertions: the candidates in front of the refused
one whose claims are new stay in the index, and nothing else differs. They are found as if the
definition were taken, also when an element makes it that is reported as bad. Nothing changes exactly
if nothing in front of the refused candidate is new; texts that conflict change nothing. The size is
the number of candidates that can be found less those that were left behind so. -/
theorem left_of_refused {ds : List Definition} {d : Definition} {failure : Failure}
    (failed : ((insert d).on (inserted ds)).1 = .error failure) :
    let index := inserted ds
    let changed := ((insert d).on index).2
    let left := index.additions d
    changed = { index with candidates := index.candidates ++ left } ∧
    (changed = index ↔ left = []) ∧
    ((∃ text, d.conflict? = some text ∧ failure = .conflictingText text ("#" ++ d.id) ∧ left = []) ∨
      ∃ front c back holder, d.conflict? = none ∧ d.candidates = front ++ c :: back ∧
        (∀ e ∈ front, ∀ other ∈ index.candidates, other.claim = e.claim →
          hasId d.id other = true) ∧
        holder ∈ index.candidates ∧ holder.claim = c.claim ∧ hasId d.id holder = false ∧
        failure = .duplicateDefinition c.kind c.text c.scope holder.site d.site ∧
        left = index.fresh front) ∧
    (∀ text, changed.containsText text =
      (index.containsText text || left.any fun c => c.text == LinkText.normalize text)) ∧
    (∀ kind text, ∃ found, index.finish.find kind text = .ok found ∧
      changed.finish.find kind text = .ok (found ++ under kind text left)) ∧
    index.candidates.length = index.size + (strays {} ds).length ∧
    ∀ (r : Resolver) (el : Element), r.phase = .collecting → r.definitions = index →
      el.definition? = .ok (some d) → (Resolver.collectElement el).on r =
        (.ok 0, ({ r with definitions := changed } : Resolver).report .fatal failure.message
          el.line) := by
  intro index changed left
  have opened : index.isSealed = false := (tidy_inserted ds).opened
  have ran : changed = { index with candidates := index.candidates ++ left } :=
    congrArg Prod.snd (insert_on_of_failed opened failed)
  refine ⟨ran, ?_, ?_, fun text => ?_, fun kind text => ⟨_, find_finish index kind text, ?_⟩, ?_, ?_⟩
  · rw [ran]
    exact additions_eq_nil_iff
  · rcases failure?_cases ((insert_error_iff opened d).1 failed) with
      conflict | ⟨front, c, back, holder, agree, split, admitted, rest⟩
    · exact .inl conflict
    · refine .inr ⟨front, c, back, holder, agree, split, fun e member => ?_, rest⟩
      exact refusal?_eq_none_iff.1 (admitted e member)
  · rw [ran]
    exact List.any_append
  · rw [ran, find_finish]
    exact congrArg Except.ok (List.filter_append _ _)
  · -- A new index is empty, and what it gains is counted or left behind.
    have balance : index.candidates.length + 0 = 0 + index.size + (strays {} ds).length :=
      length_insertAll rfl ds
    omega
  · -- The resolver inserts the definition into the same index.
    rintro r el collecting same declared
    have stillOpen : r.definitions.isSealed = false := by rw [same, opened]
    have refused : ((insert d).on r.definitions).1 = .error failure := by rw [same, failed]
    rw [Resolver.collectElement_of_failed collecting stillOpen declared refused, same]

/-- The text in front of the one that the crate has stays, the one behind it does not come. -/
theorem left_of_box :
    let index := inserted [{ id := "crate", texts := "crate" }]
    let box : Definition := { id := "box", texts := "box|crate|chest" }
    let changed := ((insert box).on index).2
    ((insert box).on index).1 = .error (.duplicateDefinition .dfn "crate" ∅ "#crate" "#box") ∧
    changed = { index with candidates := index.candidates ++ [box.candidate "box" true] } ∧
    changed.containsText "Box" = true ∧ changed.containsText "chest" = false := by
  intro index box changed
  have failed : ((insert box).on index).1 =
      .error (.duplicateDefinition .dfn "crate" ∅ "#crate" "#box") := by decide +kernel
  have left : index.additions box = [box.candidate "box" true] := by decide +kernel
  obtain ⟨ran, -, -, has, -⟩ := left_of_refused failed
  rw [left] at ran has
  refine ⟨failed, ran, ?_, ?_⟩
  · rw [has]
    decide +kernel
  · rw [has]
    decide +kernel

/-- An insertion is not undone when it fails: the document did not have the text before, has it
afterwards though the definition was refused, and links find it there. The size says nothing of it. -/
theorem box_left_behind :
    let index := inserted [{ id := "crate", texts := "crate" }]
    let box : Definition := { id := "box", texts := "box|crate" }
    let changed := ((insert box).on index).2
    ((insert box).on index).1 = .error (.duplicateDefinition .dfn "crate" ∅ "#crate" "#box") ∧
    index.containsText "box" = false ∧ changed.containsText "box" = true ∧
    index.finish.find (.exact .dfn) "box" = .ok [] ∧
    changed.finish.find (.exact .dfn) "box" = .ok [box.candidate "box" true] ∧
    changed.size = 1 ∧ changed.candidates.length = 2 := by
  refine ⟨?_, ?_, ?_, ?_, ?_, ?_, ?_⟩ <;> decide +kernel

end DefinitionIndex

end SpecLink
