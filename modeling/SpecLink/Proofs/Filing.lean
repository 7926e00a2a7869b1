import SpecLink.Proofs.Anchor.Shards
import SpecLink.Proofs.Biblio.Shards
import SpecLink.Proofs.Text.Normal

/-!
# Texts and their files

Whoever writes a database files a text as it is, whoever reads it asks for the normal form; both name
one file. So a candidate that is filed is found under all texts of its normal form. Main statements:
`mem_found_of_filed` and `normal_form_and_shard`.
-/
namespace SpecLink

open LinkText

theorem shardName_of_normalize_eq {text other : String} (same : normalize other = normalize text) :
    shardName other = shardName text := by
  rw [← shardName_normalize other, same, shardName_normalize]

namespace AnchorStore

variable {store : AnchorStore} {candidates : List Candidate} {c : Candidate} {kind : LinkKind}
  {text : String}

/-- A candidate in the file of its own text is found under each text of the same normal form, even if
that is the first lookup. -/
theorem mem_found_of_filed (fresh : store.loaded.contains (shardName c.text) = false)
    (read : readShard store.source (shardName c.text) = .ok candidates) (member : c ∈ candidates)
    (fits : kind.accepts c.kind = true) (same : normalize text = normalize c.text) :
    ∃ found, ((find kind text).on store).1 = .ok found ∧ store.filed c ∈ found := by
  have shard : shardName (normalize text) = shardName c.text := by
    rw [shardName_normalize, shardName_of_normalize_eq same]
  have opens : store.opening (normalize text) = .ok () := by
    rw [opening, shard, fresh, read]
    rfl
  have added : store.incoming (normalize text) = candidates.map store.filed := by
    simp only [incoming, shard, fresh, read, Bool.false_eq_true, if_false]
  refine ⟨(store.opened (normalize text)).matching kind (normalize text), ?_, ?_⟩
  · rw [find_on, opens]
    rfl
  · have kept : (store.filed c).kind = c.kind := by
      rw [filed]
      split
      · rw [withhold]
        split <;> rfl
      · rfl
    rw [matching, opened_anchors, added, List.mem_filter, filed_text, kept, same, fits]
    constructor
    · exact List.mem_append_right _ (List.mem_map_of_mem member)
    · simp

end AnchorStore

/-- The normal form is its own normal form, and both a text and its normal form belong to one shard.
Its name is two signs, with underscores behind the letters and digits, so either database has one file
for all texts of a normal form. -/
theorem normal_form_and_shard (text : String) :
    normalize (normalize text) = normalize text ∧
    shardName (normalize text) = shardName text ∧
    (∃ a b, shardName text = String.ofList [a, b] ∧ IsSign a ∧ IsSign b ∧ (a = '_' → b = '_')) ∧
    ∀ written, normalize written = normalize text →
      AnchorStore.shardPath (shardName (normalize text)) = AnchorStore.shardPath (shardName written) ∧
      BiblioStore.shardPath (shardName (normalize text)) =
        BiblioStore.shardPath (shardName written) := by
  refine ⟨normalize_normalize text, shardName_normalize text, exists_signs text, ?_⟩
  intro written same
  rw [shardName_normalize, shardName_of_normalize_eq same]
  exact ⟨rfl, rfl⟩

end SpecLink
