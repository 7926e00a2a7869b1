import Mathlib.Data.List.Nodup
import SpecLink.Proofs.Grouping
import SpecLink.Usages

/-!
# What the usages say

The usages of a document are a summary of its uses of specs and entries, one after the other
(`Usages.Sums`): each spec once, and each name of an entry in one of two lists, in the order of the
use that put it there. Main statements: `Usages.Sums.record`, which keeps the summary up to date,
and `Usages.Sums.nodup_names`.
-/
namespace SpecLink

namespace Grouping

/-- The keys of items, each where it first appears, are listed one by one. -/
theorem map_firstOfEach_concat {α : Type} {key : α → String} (items : List α) (a : α) :
    (firstOfEach key (items ++ [a])).map key =
      Usages.listed (key a) ((firstOfEach key items).map key) := by
  rw [firstOfEach_concat, Usages.listed]
  by_cases seen : ∃ b ∈ items, key b = key a
  · rw [if_pos seen, if_pos (List.contains_iff_mem.2 (mem_map_firstOfEach.2 seen))]
  · rw [if_neg seen, if_neg (mt List.contains_iff_mem.1 (mt mem_map_firstOfEach.1 seen)),
      List.map_append]
    rfl

end Grouping

open Grouping

/-- An entry that is cited, normatively or not. -/
structure Citation where
  entry : BiblioEntry
  normative : Bool

/-- The name that a cited entry is listed under, in lowercase. -/
def Citation.name (c : Citation) : String := Text.lowercase c.entry.displayKey

/-- A use of a spec or of a bibliography entry. -/
inductive Use where
  | spec (id : String) (normative : Bool)
  | citation (c : Citation)

namespace Use

def spec? : Use → Option (String × Bool)
  | spec id normative => some (id, normative)
  | citation _ => none

def citation? : Use → Option Citation
  | spec .. => none
  | citation c => some c

def specUses (uses : List Use) : List (String × Bool) := uses.filterMap spec?

/-- Each spec of some uses, once in the order of first use, and whether some use is normative. -/
def flagged (used : List (String × Bool)) : List (String × Bool) :=
  (firstOfEach Prod.fst used).map fun use =>
    (use.1, used.any fun other => other.1 == use.1 && other.2)

def citations (uses : List Use) : List Citation := uses.filterMap citation?

end Use

namespace Citation

/-- Some citation under the name is normative. -/
def isNormative (cs : List Citation) (name : String) : Bool :=
  cs.any fun c => c.name == name && c.normative

/-- The first normative citation under each name that has one. -/
def normatives (cs : List Citation) : List Citation := firstOfEach name (cs.filter (·.normative))

/-- The first citation under each name that is cited informatively alone. -/
def informatives (cs : List Citation) : List Citation :=
  firstOfEach name (cs.filter fun c => !isNormative cs c.name)

/-- The entry of the first citation under a name. -/
def firstNamed? (cs : List Citation) (name : String) : Option BiblioEntry :=
  (cs.find? fun c => c.name == name).map entry

variable {cs : List Citation} {c : Citation}

theorem isNormative_iff {name : String} :
    isNormative cs name = true ↔ ∃ d ∈ cs, d.name = name ∧ d.normative = true := by
  simp [isNormative]

theorem isNormative_concat (name : String) :
    isNormative (cs ++ [c]) name = (isNormative cs name || (c.name == name && c.normative)) := by
  simp [isNormative]

theorem mem_normatives_iff {name : String} :
    name ∈ (normatives cs).map Citation.name ↔ isNormative cs name = true := by
  rw [normatives, mem_map_firstOfEach, isNormative_iff]
  constructor
  · rintro ⟨d, kept, same⟩
    exact ⟨d, (List.mem_filter.1 kept).1, same, (List.mem_filter.1 kept).2⟩
  · rintro ⟨d, member, same, normative⟩
    exact ⟨d, List.mem_filter.2 ⟨member, normative⟩, same⟩

theorem mem_informatives_iff {name : String} : name ∈ (informatives cs).map Citation.name ↔
    (∃ d ∈ cs, d.name = name) ∧ isNormative cs name = false := by
  rw [informatives, mem_map_firstOfEach]
  constructor
  · rintro ⟨d, kept, rfl⟩
    obtain ⟨member, informative⟩ := List.mem_filter.1 kept
    exact ⟨⟨d, member, rfl⟩, by simpa using informative⟩
  · rintro ⟨⟨d, member, rfl⟩, informative⟩
    exact ⟨d, List.mem_filter.2 ⟨member, by simpa using informative⟩, rfl⟩

/-- A normative citation puts its name behind the others, unless it is listed. -/
theorem normatives_concat (cs : List Citation) (c : Citation) :
    (normatives (cs ++ [c])).map Citation.name =
      if c.normative then Usages.listed c.name ((normatives cs).map Citation.name)
      else (normatives cs).map Citation.name := by
  rw [normatives, List.filter_append]
  cases normative : c.normative with
  | false => simp [normative, normatives]
  | true =>
    rw [List.filter_cons_of_pos normative, List.filter_nil, map_firstOfEach_concat]
    rfl

/-- A citation puts its name behind the informative ones, unless it is listed in either way. A
normative one takes it out. -/
theorem informatives_concat (cs : List Citation) (c : Citation) :
    (informatives (cs ++ [c])).map Citation.name =
      if c.normative then ((informatives cs).map Citation.name).filter (· != c.name)
      else if isNormative cs c.name then (informatives cs).map Citation.name
      else Usages.listed c.name ((informatives cs).map Citation.name) := by
  rw [informatives, List.filter_append]
  simp only [isNormative_concat]
  cases normative : c.normative with
  | true =>
    -- What is left are the informative names but this one.
    have left : (cs.filter fun d => !(isNormative cs d.name || (c.name == d.name && true))) =
        (cs.filter fun d => !isNormative cs d.name).filter fun d => d.name != c.name := by
      rw [List.filter_filter]
      refine List.filter_congr fun d _ => ?_
      simp [bne, Bool.and_comm, Bool.beq_comm]
    have gone : [c].filter (fun d => !(isNormative cs d.name || (c.name == d.name && true))) =
        [] := by
      simp
    rw [left, gone, List.append_nil, firstOfEach_filter (· != c.name), if_pos rfl, List.filter_map]
    rfl
  | false =>
    simp only [Bool.and_false, Bool.or_false, Bool.false_eq_true, if_false]
    cases listed : isNormative cs c.name with
    | true => simp [listed, informatives]
    | false =>
      rw [List.filter_cons_of_pos (by simp [listed]), List.filter_nil, map_firstOfEach_concat]
      rfl

/-- The first citation under a name stays the first. -/
theorem firstNamed?_append (cs more : List Citation) (name : String) :
    firstNamed? (cs ++ more) name = (firstNamed? cs name).or (firstNamed? more name) := by
  rw [firstNamed?, firstNamed?, List.find?_append]
  cases cs.find? fun d => d.name == name with
  | some first => rfl
  | none => rfl

theorem firstNamed?_concat (cs : List Citation) (c : Citation) (name : String) :
    firstNamed? (cs ++ [c]) name =
      (firstNamed? cs name).or (if c.name == name then some c.entry else none) := by
  have own : firstNamed? [c] name = if c.name == name then some c.entry else none := by
    rw [firstNamed?, List.find?_singleton]
    split <;> rfl
  rw [firstNamed?_append, own]

theorem firstNamed?_isSome {name : String} :
    (firstNamed? cs name).isSome = true ↔ ∃ d ∈ cs, d.name = name := by
  simp [firstNamed?, List.find?_isSome]

/-- A citation that puts its name on the informative list is the first one under it. -/
theorem firstNamed?_of_mem_informatives (kept : c ∈ informatives cs) :
    firstNamed? cs c.name = some c.entry := by
  rw [informatives, firstOfEach_filter fun name => !isNormative cs name] at kept
  have first := find?_of_mem_firstOfEach (List.mem_filter.1 kept).1
  rw [firstNamed?]
  have same : (fun d : Citation => d.name == c.name) = fun d => decide (d.name = c.name) := by
    funext d
    exact beq_eq_decide _ _
  rw [same, first]
  rfl

end Citation

namespace Usages

/-- The usages after one more use. -/
def record (u : Usages) : Use → Usages
  | .spec id normative => u.recordSpec id normative
  | .citation c => u.recordBiblio c.entry c.normative

/-- The usages are what some uses come to. -/
structure Sums (u : Usages) (uses : List Use) : Prop where
  specs : u.specs = Use.flagged (Use.specUses uses)
  normative : u.normative = (Citation.normatives (Use.citations uses)).map Citation.name
  informative : u.informative = (Citation.informatives (Use.citations uses)).map Citation.name
  entries : ∀ name, u.entries.lookup name = Citation.firstNamed? (Use.citations uses) name

/-- A use of a spec that is listed joins its flag, any other spec comes behind. -/
theorem noteSpec_map (id : String) (normative : Bool) (flag : String → Bool)
    {used : List (String × Bool)} (distinct : used.Pairwise fun a b => a.1 ≠ b.1) :
    noteSpec id normative (used.map fun use => (use.1, flag use.1)) =
      if ∃ use ∈ used, use.1 = id then
        used.map fun use => (use.1, flag use.1 || (id == use.1 && normative))
      else used.map (fun use => (use.1, flag use.1)) ++ [(id, normative)] := by
  induction used with
  | nil => simp [noteSpec]
  | cons first rest ih =>
    obtain ⟨apart, distinct⟩ := List.pairwise_cons.1 distinct
    rw [List.map_cons, noteSpec, ih distinct]
    by_cases same : first.1 = id
    · -- The other specs are not this one.
      have listed : ∃ use ∈ first :: rest, use.1 = id := ⟨first, List.mem_cons_self, same⟩
      have others : rest.map (fun use => (use.1, flag use.1 || (id == use.1 && normative))) =
          rest.map fun use => (use.1, flag use.1) := by
        refine List.map_congr_left fun other member => ?_
        have different : id ≠ other.1 := same ▸ apart other member
        simp [different]
      rw [if_pos (beq_iff_eq.2 same), if_pos listed, List.map_cons, others]
      simp [same]
    · have listed : (∃ use ∈ first :: rest, use.1 = id) ↔ ∃ use ∈ rest, use.1 = id := by
        simp [same]
      simp only [listed, beq_iff_eq, if_neg same]
      split
      · simp [Ne.symm same]
      · rfl

theorem noteSpec_flagged (id : String) (normative : Bool) (used : List (String × Bool)) :
    noteSpec id normative (Use.flagged used) = Use.flagged (used ++ [(id, normative)]) := by
  have distinct := pairwise_firstOfEach Prod.fst used
  have noted := noteSpec_map id normative
    (fun name => used.any fun other => other.1 == name && other.2) distinct
  simp only [exists_firstOfEach_iff] at noted
  rw [Use.flagged, noted, Use.flagged, firstOfEach_concat]
  simp only [List.any_append, List.any_cons, List.any_nil, Bool.or_false]
  by_cases seen : ∃ use ∈ used, use.1 = id
  · rw [if_pos seen, if_pos seen]
  · rw [if_neg seen, if_neg seen, List.map_append]
    -- The new use says nothing about the other specs, and they say nothing about its own.
    have others : (firstOfEach Prod.fst used).map (fun use =>
        (use.1, (used.any fun other => other.1 == use.1 && other.2) || (id == use.1 && normative))) =
        (firstOfEach Prod.fst used).map fun use =>
          (use.1, used.any fun other => other.1 == use.1 && other.2) := by
      refine List.map_congr_left fun use kept => ?_
      have different : id ≠ use.1 := fun same => seen ⟨use, mem_of_mem_firstOfEach kept, same.symm⟩
      simp [different]
    have own : (used.any fun other => other.1 == id && other.2) = false := by
      refine List.any_eq_false.2 fun other member => ?_
      have different : other.1 ≠ id := fun same => seen ⟨other, member, same⟩
      simp [different]
    rw [others, List.map_cons, List.map_nil, own]
    simp

variable {u : Usages} {uses : List Use}

theorem Sums.recordSpec (sums : Sums u uses) (id : String) (normative : Bool) :
    Sums (u.recordSpec id normative) (uses ++ [.spec id normative]) := by
  have kept : Use.citations (uses ++ [.spec id normative]) = Use.citations uses := by
    simp [Use.citations, Use.citation?]
  have added : Use.specUses (uses ++ [.spec id normative]) =
      Use.specUses uses ++ [(id, normative)] := by
    simp [Use.specUses, Use.spec?]
  refine ⟨?_, ?_, ?_, ?_⟩
  · rw [Usages.recordSpec, sums.specs, noteSpec_flagged, added]
  · rw [kept]
    exact sums.normative
  · rw [kept]
    exact sums.informative
  · rw [kept]
    exact sums.entries

theorem recordBiblio_eq (u : Usages) (c : Citation) : u.recordBiblio c.entry c.normative =
    { u with
      entries :=
        if (u.entries.lookup c.name).isSome then u.entries else u.entries ++ [(c.name, c.entry)]
      normative := if c.normative then listed c.name u.normative else u.normative
      informative :=
        if c.normative then u.informative.filter (· != c.name)
        else if u.normative.contains c.name then u.informative else listed c.name u.informative } := by
  have name : Text.lowercase c.entry.displayKey = c.name := rfl
  rw [Usages.recordBiblio, name]
  cases c.normative with
  | true => rfl
  | false =>
    simp only [Bool.false_eq_true, if_false]
    split
    · rfl
    · rfl

theorem Sums.recordBiblio (sums : Sums u uses) (c : Citation) :
    Sums (u.recordBiblio c.entry c.normative) (uses ++ [.citation c]) := by
  have added : Use.citations (uses ++ [.citation c]) = Use.citations uses ++ [c] := by
    simp [Use.citations, Use.citation?]
  have kept : Use.specUses (uses ++ [.citation c]) = Use.specUses uses := by
    simp [Use.specUses, Use.spec?]
  have known : u.normative.contains c.name = Citation.isNormative (Use.citations uses) c.name := by
    rw [Bool.eq_iff_iff, List.contains_iff_mem, sums.normative, Citation.mem_normatives_iff]
  rw [recordBiblio_eq]
  refine ⟨?_, ?_, ?_, fun name => ?_⟩
  · rw [kept]
    exact sums.specs
  · rw [added, Citation.normatives_concat, ← sums.normative]
  · rw [added, Citation.informatives_concat, ← sums.informative, known]
  · -- The entry is noted if it is the first one under its name.
    rw [added, Citation.firstNamed?_concat, ← sums.entries]
    simp only
    split
    next seen =>
      cases listed : u.entries.lookup name with
      | some e => rfl
      | none =>
        have different : c.name ≠ name := fun same => by simp [same, listed] at seen
        simp [different]
    next unseen =>
      rw [List.lookup_append]
      by_cases same : c.name = name
      · simp [same]
      · simp [same, List.lookup_cons, beq_eq_false_iff_ne.2 (Ne.symm same)]

/-- The summary is brought up to date by recording a use. -/
theorem Sums.record (sums : Sums u uses) (use : Use) : Sums (u.record use) (uses ++ [use]) := by
  cases use with
  | spec id normative => exact sums.recordSpec id normative
  | citation c => exact sums.recordBiblio c

theorem sums_empty : Sums {} [] := ⟨rfl, rfl, rfl, fun _ => rfl⟩

/-- The usages after some uses are their summary. -/
theorem Sums.foldl (sums : Sums u uses) (more : List Use) :
    Sums (more.foldl Usages.record u) (uses ++ more) := by
  induction more generalizing u uses with
  | nil => rwa [List.append_nil]
  | cons use rest ih =>
    have next := ih (sums.record use)
    rwa [List.append_assoc] at next

/-! What the lists of entries hold, if the usages are what some uses come to. -/

section Lists

variable (sums : Sums u uses)
include sums

theorem Sums.mem_names_iff {name : String} :
    name ∈ u.normative ++ u.informative ↔ ∃ c ∈ Use.citations uses, c.name = name := by
  rw [List.mem_append, sums.normative, sums.informative, Citation.mem_normatives_iff,
    Citation.mem_informatives_iff]
  cases normative : Citation.isNormative (Use.citations uses) name with
  | true =>
    obtain ⟨c, member, same, -⟩ := Citation.isNormative_iff.1 normative
    simp only [true_or, true_iff]
    exact ⟨c, member, same⟩
  | false => simp

/-- No name is listed twice. -/
theorem Sums.nodup_names : (u.normative ++ u.informative).Nodup := by
  have distinct (cs : List Citation) : ((firstOfEach Citation.name cs).map Citation.name).Nodup :=
    List.pairwise_map.2 (pairwise_firstOfEach Citation.name cs)
  rw [List.nodup_append, sums.normative, sums.informative]
  refine ⟨distinct _, distinct _, ?_⟩
  rintro name normative other informative rfl
  rw [Citation.mem_normatives_iff] at normative
  rw [Citation.mem_informatives_iff, normative] at informative
  cases informative.2

/-- Under each listed name there is an entry, and it goes by that name. -/
theorem Sums.entry_of_listed {name : String} (listed : name ∈ u.normative ++ u.informative) :
    ∃ e, u.entries.lookup name = some e ∧ Text.lowercase e.displayKey = name := by
  obtain ⟨e, first⟩ := Option.isSome_iff_exists.1
    (Citation.firstNamed?_isSome.2 (sums.mem_names_iff.1 listed))
  refine ⟨e, (sums.entries name).trans first, ?_⟩
  obtain ⟨c, found, rfl⟩ := Option.map_eq_some_iff.1 first
  have named := List.find?_some found
  exact beq_iff_eq.1 named

theorem Sums.entriesUnder {names : List String} (listed : names ⊆ u.normative ++ u.informative) :
    (u.entriesUnder names).map some = names.map (Citation.firstNamed? (Use.citations uses)) ∧
      (u.entriesUnder names).map (fun e => Text.lowercase e.displayKey) = names := by
  induction names with
  | nil => exact ⟨rfl, rfl⟩
  | cons name rest ih =>
    obtain ⟨e, found, same⟩ := sums.entry_of_listed (listed List.mem_cons_self)
    obtain ⟨entries, keys⟩ := ih fun other member => listed (List.mem_cons_of_mem name member)
    have head : u.entriesUnder (name :: rest) = e :: u.entriesUnder rest :=
      List.filterMap_cons_some found
    rw [head, List.map_cons, List.map_cons, List.map_cons, entries, keys, ← sums.entries, found,
      same]
    exact ⟨rfl, rfl⟩

/-- The normative list has the entry of the first citation under each of its names. -/
theorem Sums.normativeEntries : u.normativeEntries.map some =
    (Citation.normatives (Use.citations uses)).map fun c =>
      Citation.firstNamed? (Use.citations uses) c.name := by
  rw [Usages.normativeEntries, (sums.entriesUnder (List.subset_append_left _ _)).1,
    sums.normative, List.map_map]
  rfl

/-- The informative list has the entry of the first citation under each of its names, which is the
citation that put it there. -/
theorem Sums.informativeEntries :
    u.informativeEntries = (Citation.informatives (Use.citations uses)).map Citation.entry := by
  have entries := (sums.entriesUnder (List.subset_append_right _ _)).1
  have first : (Citation.informatives (Use.citations uses)).map (fun c =>
      Citation.firstNamed? (Use.citations uses) c.name) =
      ((Citation.informatives (Use.citations uses)).map Citation.entry).map some := by
    rw [List.map_map]
    exact List.map_congr_left fun c kept => Citation.firstNamed?_of_mem_informatives kept
  rw [sums.informative, List.map_map] at entries
  rw [Usages.informativeEntries, sums.informative]
  exact (List.map_inj_right fun _ _ => Option.some.inj).1 (entries.trans first)

/-- The entries go by the names that are listed. -/
theorem Sums.map_names :
    (u.normativeEntries ++ u.informativeEntries).map (fun e => Text.lowercase e.displayKey) =
      u.normative ++ u.informative := by
  rw [List.map_append, Usages.normativeEntries, Usages.informativeEntries,
    (sums.entriesUnder (List.subset_append_left _ _)).2,
    (sums.entriesUnder (List.subset_append_right _ _)).2]

/-- Exactly one entry goes by the name of a citation. -/
theorem Sums.countP_entries {c : Citation} (cited : c ∈ Use.citations uses) :
    (u.normativeEntries ++ u.informativeEntries).countP
      (fun e => Text.lowercase e.displayKey == c.name) = 1 := by
  have once := List.count_eq_one_of_mem sums.nodup_names (sums.mem_names_iff.2 ⟨c, cited, rfl⟩)
  rw [← sums.map_names, List.count, List.countP_map] at once
  exact once

/-- An entry that is listed is the first one that was cited under its name. -/
theorem Sums.firstNamed?_of_listed {e : BiblioEntry}
    (listed : e ∈ u.normativeEntries ++ u.informativeEntries) :
    Citation.firstNamed? (Use.citations uses) (Text.lowercase e.displayKey) = some e := by
  obtain ⟨name, named, found⟩ : ∃ name ∈ u.normative ++ u.informative,
      u.entries.lookup name = some e := by
    rcases List.mem_append.1 listed with normative | informative
    · obtain ⟨name, member, found⟩ := List.mem_filterMap.1 normative
      exact ⟨name, List.mem_append_left _ member, found⟩
    · obtain ⟨name, member, found⟩ := List.mem_filterMap.1 informative
      exact ⟨name, List.mem_append_right _ member, found⟩
  obtain ⟨other, again, rfl⟩ := sums.entry_of_listed named
  obtain rfl := Option.some.inj (found.symm.trans again)
  rw [← sums.entries, found]

/-- Under the name of a citation the first entry that was cited is listed, and no other. -/
theorem Sums.filter_entries {name : String} {first : BiblioEntry}
    (found : Citation.firstNamed? (Use.citations uses) name = some first) :
    (u.normativeEntries ++ u.informativeEntries).filter
      (fun e => Text.lowercase e.displayKey == name) = [first] := by
  obtain ⟨c, cited, rfl⟩ := Citation.firstNamed?_isSome.1 (Option.isSome_of_mem found)
  have once := sums.countP_entries cited
  rw [List.countP_eq_length_filter] at once
  obtain ⟨e, single⟩ := List.length_eq_one_iff.1 once
  obtain ⟨listed, named⟩ := List.mem_filter.1 (single ▸ List.mem_cons_self)
  have same := sums.firstNamed?_of_listed listed
  rw [beq_iff_eq.1 named, found] at same
  rw [single, Option.some.inj same]

/-- What is listed as normative stays so whatever is used later. -/
theorem Sums.normativeEntries_subset {v : Usages} {more : List Use}
    (later : Sums v (uses ++ more)) :
    u.normativeEntries ⊆ v.normativeEntries := by
  intro e listed
  obtain ⟨name, normative, found⟩ := List.mem_filterMap.1 listed
  rw [sums.normative, Citation.mem_normatives_iff, Citation.isNormative_iff] at normative
  obtain ⟨c, member, named, flag⟩ := normative
  have cited : Use.citations (uses ++ more) = Use.citations uses ++ Use.citations more :=
    List.filterMap_append
  refine List.mem_filterMap.2 ⟨name, ?_, ?_⟩
  · rw [later.normative, Citation.mem_normatives_iff, Citation.isNormative_iff, cited]
    exact ⟨c, List.mem_append_left _ member, named, flag⟩
  · -- The first citation under the name is still the first.
    rw [sums.entries, Citation.firstNamed?, Option.map_eq_some_iff] at found
    obtain ⟨first, found, rfl⟩ := found
    rw [later.entries, cited, Citation.firstNamed?, List.find?_append, found]
    rfl

end Lists

end Usages

end SpecLink
