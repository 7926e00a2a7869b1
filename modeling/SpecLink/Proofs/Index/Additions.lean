import Mathlib.Data.List.TakeWhile
import SpecLink.DefinitionIndex
import SpecLink.Proofs.Action
import SpecLink.Proofs.Grouping

/-!
# What an insertion adds

An insertion goes through the candidates of a definition and ends at the first one whose claim
another definition has. What it came to before is added, each new claim once, whether it ends well or
not. Main statement: `insert_on`, the answer of an insertion and the index behind it.
-/
namespace SpecLink

/-- What a candidate claims: a text for a kind and a scope. -/
def Candidate.claim (c : Candidate) : String × DefinitionKind × SortedSet :=
  (c.text, c.kind, c.scope)

theorem Definition.hasId_of_mem_candidates {d : Definition} {c : Candidate}
    (member : c ∈ d.candidates) : DefinitionIndex.hasId d.id c = true := by
  rcases List.mem_append.1 member with member | member <;>
  · obtain ⟨text, -, rfl⟩ := List.mem_map.1 member
    simp [DefinitionIndex.hasId, candidate]

namespace DefinitionIndex

/-- The index with one more candidate. -/
def push (index : DefinitionIndex) (c : Candidate) : DefinitionIndex :=
  { index with candidates := index.candidates ++ [c] }

/-- Why a definition cannot have one of its candidates indexed: another definition has the claim. -/
def refusal? (index : DefinitionIndex) (d : Definition) (c : Candidate) : Option Failure :=
  ((index.rivals c).find? fun other => !hasId d.id other).map fun other =>
    .duplicateDefinition c.kind c.text c.scope other.site d.site

/-- The first of some candidates for each claim that the index does not have. -/
def fresh (index : DefinitionIndex) (cs : List Candidate) : List Candidate :=
  (Grouping.firstOfEach Candidate.claim cs).filter fun c => (index.rivals c).isEmpty

/-- Why the index does not take a definition. -/
def failure? (index : DefinitionIndex) (d : Definition) : Option Failure :=
  match d.conflict? with
  | some text => some (.conflictingText text ("#" ++ d.id))
  | none => d.candidates.findSome? (index.refusal? d)

/-- The candidates in front of the first one that the index refuses; none if the texts of the
definition conflict. -/
def admitted (index : DefinitionIndex) (d : Definition) : List Candidate :=
  match d.conflict? with
  | some _ => []
  | none => d.candidates.takeWhile fun c => (index.refusal? d c).isNone

/-- What the insertion of a definition adds, whether it answers or fails. -/
def additions (index : DefinitionIndex) (d : Definition) : List Candidate :=
  index.fresh (index.admitted d)

variable {index : DefinitionIndex} {d : Definition} {c other : Candidate}

theorem claim_eq_iff :
    (other.text == c.text && other.kind == c.kind && other.scope == c.scope) = true ↔
      other.claim = c.claim := by
  simp [Candidate.claim, and_assoc]

theorem mem_rivals : other ∈ index.rivals c ↔ other ∈ index.candidates ∧ other.claim = c.claim := by
  rw [rivals, List.mem_filter, claim_eq_iff]

theorem rivals_push (index : DefinitionIndex) (c e : Candidate) :
    (index.push c).rivals e = index.rivals e ++ if c.claim = e.claim then [c] else [] := by
  simp only [rivals, push, List.filter_append]
  congr 1
  rw [List.filter_cons, List.filter_nil]
  simp only [claim_eq_iff]

theorem rivals_congr (same : c.claim = other.claim) : index.rivals c = index.rivals other := by
  obtain ⟨text, kind, scope⟩ : c.text = other.text ∧ c.kind = other.kind ∧ c.scope = other.scope := by
    simpa [Candidate.claim] using same
  rw [rivals, rivals, text, kind, scope]

theorem rivals_eq_nil_iff : index.rivals c = [] ↔ ∀ e ∈ index.candidates, e.claim ≠ c.claim := by
  simp only [List.eq_nil_iff_forall_not_mem, mem_rivals, not_and, ne_eq]

theorem refusal?_eq_some_iff {failure : Failure} : index.refusal? d c = some failure ↔
    ∃ other, (index.rivals c).find? (fun e => !hasId d.id e) = some other ∧
      failure = .duplicateDefinition c.kind c.text c.scope other.site d.site := by
  simp only [refusal?, Option.map_eq_some_iff, eq_comm (b := failure)]

theorem refusal?_eq_none_iff : index.refusal? d c = none ↔
    ∀ other ∈ index.candidates, other.claim = c.claim → hasId d.id other = true := by
  simp only [refusal?, Option.map_eq_none_iff, List.find?_eq_none, mem_rivals, Bool.not_eq_true',
    Bool.not_eq_false, and_imp]

/-- A definition is not in its own way. -/
theorem refusal?_push (own : hasId d.id c = true) (e : Candidate) :
    (index.push c).refusal? d e = index.refusal? d e := by
  rw [refusal?, rivals_push]
  -- The new rival, if it is one, is passed over.
  split
  · rw [List.find?_append, List.find?_cons_of_neg (by simp [own]), List.find?_nil, Option.or_none]
    rfl
  · rw [List.append_nil]
    rfl

theorem fresh_nil (index : DefinitionIndex) : index.fresh [] = [] := rfl

/-- A candidate with a new claim is added, and its claim is not new any more. -/
theorem fresh_cons_of_new (new : index.rivals c = []) (cs : List Candidate) :
    index.fresh (c :: cs) = c :: (index.push c).fresh cs := by
  simp only [fresh, Grouping.firstOfEach, List.filter_cons, new, List.isEmpty_nil, if_true,
    List.filter_filter, rivals_push]
  congr 1
  refine List.filter_congr fun e _ => ?_
  by_cases same : c.claim = e.claim
  · simp [same]
  · simp [same, Ne.symm same]

theorem fresh_cons_of_claimed (claimed : index.rivals c ≠ []) (cs : List Candidate) :
    index.fresh (c :: cs) = index.fresh cs := by
  have held : (index.rivals c).isEmpty = false := by simpa using claimed
  simp only [fresh, Grouping.firstOfEach, List.filter_cons, held, Bool.false_eq_true, if_false,
    List.filter_filter]
  refine List.filter_congr fun e _ => ?_
  -- What has the claim of `c` is not new either.
  by_cases same : e.claim = c.claim
  · simp [same, rivals_congr same, held]
  · simp [same]

theorem rivals_of_mem_fresh {cs : List Candidate} (member : c ∈ index.fresh cs) :
    index.rivals c = [] :=
  List.isEmpty_iff.1 (List.mem_filter.1 member).2

/-- Each claim is in the index already, or what is fresh has it. -/
theorem exists_claim_of_mem (index : DefinitionIndex) {cs : List Candidate} (member : c ∈ cs) :
    ∃ other ∈ index.candidates ++ index.fresh cs, other.claim = c.claim := by
  by_cases new : index.rivals c = []
  · obtain ⟨first, kept, same⟩ : ∃ first ∈ Grouping.firstOfEach Candidate.claim cs,
        first.claim = c.claim := Grouping.exists_mem_firstOfEach member
    have isNew : (index.rivals first).isEmpty = true := by
      rw [rivals_congr same, new]
      rfl
    exact ⟨first, List.mem_append_right _ (List.mem_filter.2 ⟨kept, isNew⟩), same⟩
  · obtain ⟨rival, listed⟩ := List.exists_mem_of_ne_nil _ new
    obtain ⟨indexed, same⟩ := mem_rivals.1 listed
    exact ⟨rival, List.mem_append_left _ indexed, same⟩

theorem insertCandidate_on (d : Definition) (c : Candidate) (index : DefinitionIndex) :
    (insertCandidate d c).on index =
      match index.refusal? d c with
      | some failure => (.error failure, index)
      | none => if index.rivals c = [] then (.ok true, index.push c) else (.ok false, index) := by
  simp only [insertCandidate, refusal?, Action.on_bind, Action.on_get]
  cases index.rivals c with
  | nil => rfl
  | cons rival more =>
    simp only
    cases (rival :: more).find? fun other => !hasId d.id other <;> rfl

/-- Candidates of one definition are inserted up to the first that is refused. -/
theorem insertCandidates_on {cs : List Candidate} (own : ∀ c ∈ cs, hasId d.id c = true)
    (index : DefinitionIndex) :
    (insertCandidates d cs).on index =
      (match cs.findSome? (index.refusal? d) with
        | some failure => .error failure
        | none => .ok (index.fresh cs).length,
      { index with candidates := index.candidates ++
          index.fresh (cs.takeWhile fun c => (index.refusal? d c).isNone) }) := by
  -- For every index: each candidate is inserted into the one that those before it leave.
  induction cs generalizing index with
  | nil => simp [insertCandidates, fresh_nil]
  | cons c rest ih =>
    have mine := own c List.mem_cons_self
    have others : ∀ e ∈ rest, hasId d.id e = true := fun e later =>
      own e (List.mem_cons_of_mem c later)
    simp only [insertCandidates, Action.on_bind, insertCandidate_on]
    cases refused : index.refusal? d c with
    | some failure => simp [refused, fresh_nil]
    | none =>
      simp only [List.findSome?_cons, refused, List.takeWhile_cons, Option.isNone_none, if_true]
      by_cases new : index.rivals c = []
      · -- The candidate is pushed, which makes no difference to what is refused.
        have same : (index.push c).refusal? d = index.refusal? d := funext (refusal?_push mine)
        rw [if_pos new, fresh_cons_of_new new, fresh_cons_of_new new]
        simp only [ih others, same]
        cases rest.findSome? (index.refusal? d) with
        | some failure => simp [push]
        | none => simp [push, Nat.add_comm]
      · rw [if_neg new, fresh_cons_of_claimed new, fresh_cons_of_claimed new]
        simp only [ih others]
        cases rest.findSome? (index.refusal? d) with
        | some failure => rfl
        | none => simp

/-- A definition fails for texts of its own, or at the first candidate that another one has. -/
theorem failure?_cases {failure : Failure} (failed : index.failure? d = some failure) :
    (∃ text, d.conflict? = some text ∧ failure = .conflictingText text ("#" ++ d.id) ∧
      index.additions d = []) ∨
    ∃ front c back holder, d.conflict? = none ∧ d.candidates = front ++ c :: back ∧
      (∀ e ∈ front, index.refusal? d e = none) ∧
      holder ∈ index.candidates ∧ holder.claim = c.claim ∧ hasId d.id holder = false ∧
      failure = .duplicateDefinition c.kind c.text c.scope holder.site d.site ∧
      index.additions d = index.fresh front := by
  rw [failure?] at failed
  rw [additions, admitted]
  cases conflict : d.conflict? with
  | some text =>
    rw [conflict] at failed
    exact .inl ⟨text, rfl, (Option.some.inj failed).symm, rfl⟩
  | none =>
    rw [conflict] at failed
    obtain ⟨front, c, back, split, refused, before⟩ := List.findSome?_eq_some_iff.1 failed
    obtain ⟨holder, first, same⟩ := refusal?_eq_some_iff.1 refused
    obtain ⟨indexed, claim⟩ := mem_rivals.1 (List.mem_of_find?_eq_some first)
    refine .inr ⟨front, c, back, holder, rfl, split, before, indexed, claim, ?_, same, ?_⟩
    · simpa using List.find?_some first
    · -- The candidates in front are admitted, the refused one is not.
      simp only [split]
      rw [List.takeWhile_append_of_pos fun e member => by simp [before e member],
        List.takeWhile_cons_of_neg (by simp [refused]), List.append_nil]

theorem admitted_sublist (index : DefinitionIndex) (d : Definition) :
    (index.admitted d).Sublist d.candidates := by
  rw [admitted]
  split
  · exact List.nil_sublist _
  · exact List.takeWhile_sublist _

theorem additions_sublist (index : DefinitionIndex) (d : Definition) :
    (index.additions d).Sublist d.candidates :=
  (List.filter_sublist.trans (Grouping.firstOfEach_sublist _ _)).trans (admitted_sublist index d)

/-- No two candidates of an index with distinct claims and of the additions to it have one claim. -/
theorem pairwise_append_additions
    (distinct : index.candidates.Pairwise fun a b => a.claim ≠ b.claim) (d : Definition) :
    (index.candidates ++ index.additions d).Pairwise fun a b => a.claim ≠ b.claim := by
  refine List.pairwise_append.2 ⟨distinct, ?_, fun a indexed b added => ?_⟩
  · exact (Grouping.pairwise_firstOfEach Candidate.claim (index.admitted d)).filter _
  · exact rivals_eq_nil_iff.1 (rivals_of_mem_fresh added) a indexed

theorem admitted_of_accepted (accepted : index.failure? d = none) :
    index.admitted d = d.candidates := by
  rw [failure?] at accepted
  rw [admitted]
  cases conflict : d.conflict? with
  | some text => simp [conflict] at accepted
  | none =>
    simp only [conflict, List.findSome?_eq_none_iff] at accepted
    exact List.takeWhile_eq_self_iff.2 fun c member => by simp [accepted c member]

/-- An open index adds the additions of a definition in any case, and counts them unless it does not
take the definition. -/
theorem insert_on (opened : index.isSealed = false) (d : Definition) :
    (insert d).on index =
      match index.failure? d with
      | some failure =>
        (.error failure, { index with candidates := index.candidates ++ index.additions d })
      | none =>
        (.ok (index.additions d).length,
          { index with
            candidates := index.candidates ++ index.additions d
            size := index.size + (index.additions d).length }) := by
  have accepted := @admitted_of_accepted index d
  obtain ⟨candidates, isSealed, size⟩ := index
  obtain rfl : isSealed = false := opened
  simp only [insert, additions, admitted, failure?, Action.on_bind, Action.on_get,
    Bool.false_eq_true, if_false] at accepted ⊢
  cases conflict : d.conflict? with
  | some text => simp [fresh_nil]
  | none =>
    simp only [conflict, Action.on_pure, Action.on_bind, Action.on_modify,
      insertCandidates_on fun _ => Definition.hasId_of_mem_candidates] at accepted ⊢
    cases found : d.candidates.findSome? (refusal? ⟨candidates, false, size⟩ d) with
    | some failure => rfl
    | none => simp only [accepted found]

theorem insert_ok_iff (opened : index.isSealed = false) (d : Definition) :
    (∃ n, ((insert d).on index).1 = .ok n) ↔ index.failure? d = none := by
  rw [insert_on opened]
  cases index.failure? d <;> simp

theorem insert_error_iff (opened : index.isSealed = false) (d : Definition) {failure : Failure} :
    ((insert d).on index).1 = .error failure ↔ index.failure? d = some failure := by
  rw [insert_on opened]
  cases index.failure? d <;> simp

theorem insert_on_of_failed (opened : index.isSealed = false) {failure : Failure}
    (failed : ((insert d).on index).1 = .error failure) :
    (insert d).on index =
      (.error failure, { index with candidates := index.candidates ++ index.additions d }) := by
  rw [insert_on opened, (insert_error_iff opened d).1 failed]

theorem insert_on_of_accepted (opened : index.isSealed = false) {n : Nat}
    (accepted : ((insert d).on index).1 = .ok n) :
    n = (index.additions d).length ∧ (insert d).on index =
      (.ok n, { index with
        candidates := index.candidates ++ index.additions d
        size := index.size + n }) := by
  have taken := (insert_ok_iff opened d).1 ⟨n, accepted⟩
  rw [insert_on opened, taken] at accepted ⊢
  obtain rfl : (index.additions d).length = n := Except.ok.inj accepted
  exact ⟨rfl, rfl⟩

end DefinitionIndex

end SpecLink
