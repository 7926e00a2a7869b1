import SpecLink.Heading

/-!
# What a section comes to

A key leads to headings by status if they are its own or those of the only page that has it. Every
section comes to one of three outcomes: the heading preferred for the status, a choice of pages if
those of the key are not exactly one, or nothing. Main statement: `find_outcome`.
-/
namespace SpecLink.HeadingTable

/-- The key has headings by status, or there is one page that has it and these are the headings of
that page. -/
inductive Leads (table : HeadingTable) (key : String) (current snapshot : Option Heading) : Prop
  | own (entry : table.entries.get? key = some (.statuses current snapshot))
  | page {page : String} (listed : table.entries.get? key = some (.pages [page]))
    (entry : table.entries.get? page = some (.statuses current snapshot))

/-- The key has a list of pages, with several of them or none. -/
structure Scattered (table : HeadingTable) (key : String) (pages : List String) : Prop where
  listed : table.entries.get? key = some (.pages pages)
  count : 2 ≤ pages.length ∨ pages = []

/-- The heading is that for the status, or the other one if that is missing. -/
def Prefers (status : Status) (current snapshot : Option Heading) (h : Heading) : Prop :=
  match status with
  | .current => current = some h ∨ current = none ∧ snapshot = some h
  | .snapshot => snapshot = some h ∨ snapshot = none ∧ current = some h

variable {table : HeadingTable} {status : Status} {id key : String} {pages : List String}
  {current snapshot : Option Heading} {h : Heading}

theorem choose_eq_some_iff :
    choose status current snapshot = some h ↔ Prefers status current snapshot h := by
  cases status <;> cases current <;> cases snapshot <;> simp [choose, Prefers]

theorem choose_eq_none_iff :
    choose status current snapshot = none ↔ current = none ∧ snapshot = none := by
  cases status <;> cases current <;> cases snapshot <;> simp [choose]

theorem Leads.unique {current' snapshot' : Option Heading} (leads : table.Leads key current snapshot)
    (leads' : table.Leads key current' snapshot') : current = current' ∧ snapshot = snapshot' := by
  cases leads with
  | own entry =>
    cases leads' with
    | own entry' => simpa [entry] using entry'
    | page listed _ => simp [entry] at listed
  | @page page listed entry =>
    cases leads' with
    | own entry' => simp [listed] at entry'
    | @page page' listed' entry' =>
      obtain rfl : page = page' := by simpa [listed] using listed'
      simpa [entry] using entry'

/-- There is only one pair of headings to prefer from. -/
theorem Leads.exists_iff (leads : table.Leads key current snapshot) :
    (∃ c s, table.Leads key c s ∧ Prefers status c s h) ↔
      choose status current snapshot = some h := by
  rw [choose_eq_some_iff]
  constructor
  · rintro ⟨c, s, leads', preferred⟩
    obtain ⟨rfl, rfl⟩ := leads'.unique leads
    exact preferred
  · exact fun preferred => ⟨current, snapshot, leads, preferred⟩

theorem Leads.forall_iff (leads : table.Leads key current snapshot) (status : Status) :
    (∀ c s, table.Leads key c s → c = none ∧ s = none) ↔
      choose status current snapshot = none := by
  rw [choose_eq_none_iff]
  constructor
  · exact fun missing => missing current snapshot leads
  · rintro missing c s leads'
    obtain ⟨rfl, rfl⟩ := leads'.unique leads
    exact missing

theorem Scattered.unique {pages' : List String} (scattered : table.Scattered key pages)
    (scattered' : table.Scattered key pages') : pages = pages' := by
  simpa [scattered.listed] using scattered'.listed

theorem Scattered.not_leads (scattered : table.Scattered key pages) :
    ¬table.Leads key current snapshot := by
  obtain ⟨listed, count⟩ := scattered
  intro leads
  cases leads with
  | own entry => simp [listed] at entry
  | @page page single _ =>
    obtain rfl : pages = [page] := by simpa [listed] using single
    simp at count

theorem find_of_scattered (scattered : table.Scattered (keyOf id) pages) : table.find id status =
    .error (.ambiguousSection table.spec (keyOf id) (pages.map (table.spec ++ ·))) := by
  obtain ⟨listed, count⟩ := scattered
  simp only [find, listed]
  match pages, count with
  | [], _ => rfl
  | _ :: _ :: _, _ => rfl

theorem find_of_leads (leads : table.Leads (keyOf id) current snapshot) : table.find id status =
    (choose status current snapshot).elim
      (.error (.unknownSection table.spec (keyOf id))) .ok := by
  cases leads with
  | own entry => simp only [find, headingAt?, entry]
  | page listed entry => simp only [find, headingAt?, listed, entry]

/-- A key that is not there leads nowhere, nor does the only page that has it unless that page has
headings by status. -/
theorem find_of_nowhere (unscattered : ∀ pages, ¬table.Scattered (keyOf id) pages)
    (nowhere : ∀ current snapshot, ¬table.Leads (keyOf id) current snapshot) :
    table.find id status = .error (.unknownSection table.spec (keyOf id)) := by
  simp only [find]
  split
  next page listed =>
    have headless : table.headingAt? status page = none := by
      simp only [headingAt?]
      split
      next current snapshot entry => exact absurd (.page listed entry) (nowhere current snapshot)
      next => rfl
    rw [headless]
    rfl
  next pages several listed =>
    refine absurd ⟨listed, ?_⟩ (unscattered pages)
    match pages with
    | [] => exact .inr rfl
    | [page] => exact absurd rfl (several page)
    | _ :: _ :: _ => exact .inl (by simp)
  next unlisted _ =>
    have headless : table.headingAt? status (keyOf id) = none := by
      simp only [headingAt?]
      split
      next current snapshot entry => exact absurd (.own entry) (nowhere current snapshot)
      next => rfl
    rw [headless]
    rfl

theorem keyOf_cases (id : String) :
    (keyOf id = id ∧ ∃ rest, id = "#" ++ rest ∨ id = "/" ++ rest) ∨
      (keyOf id = "#" ++ id ∧ ¬∃ rest, id = "#" ++ rest ∨ id = "/" ++ rest) := by
  have starts (start : String) : Text.startsWith start id = true ↔ ∃ rest, id = start ++ rest := by
    rw [Text.startsWith, List.isPrefixOf_iff_prefix]
    constructor
    · rintro ⟨rest, same⟩
      exact ⟨String.ofList rest, String.toList_inj.1 (by simp [same])⟩
    · rintro ⟨rest, rfl⟩
      exact ⟨rest.toList, by simp⟩
  have signed : (Text.startsWith "#" id || Text.startsWith "/" id) = true ↔
      ∃ rest, id = "#" ++ rest ∨ id = "/" ++ rest := by
    rw [Bool.or_eq_true, starts, starts, exists_or]
  rw [keyOf, ← signed]
  split
  next sign => exact .inl ⟨rfl, sign⟩
  next unsigned => exact .inr ⟨rfl, unsigned⟩

/-- The key of a section is the id, behind a number sign unless it starts with that or a slash. The
section has a heading if and only if its key leads to one, and then the one preferred for the status.
It is ambiguous if and only if its key has a list of several pages, which are named in order, or of
none; and it is unknown otherwise. -/
theorem find_outcome (table : HeadingTable) (id : String) (status : Status) :
    let key := keyOf id
    ((key = id ∧ ∃ rest, id = "#" ++ rest ∨ id = "/" ++ rest) ∨
      (key = "#" ++ id ∧ ¬∃ rest, id = "#" ++ rest ∨ id = "/" ++ rest)) ∧
    (∀ h, table.find id status = .ok h ↔
      ∃ current snapshot, table.Leads key current snapshot ∧ Prefers status current snapshot h) ∧
    (∀ fault, table.find id status = .error fault ↔
      (∃ pages, table.Scattered key pages ∧
        fault = .ambiguousSection table.spec key (pages.map (table.spec ++ ·))) ∨
      ((∀ pages, ¬table.Scattered key pages) ∧
        (∀ current snapshot, table.Leads key current snapshot → current = none ∧ snapshot = none) ∧
        fault = .unknownSection table.spec key)) := by
  intro key
  refine ⟨keyOf_cases id, ?_⟩
  by_cases several : ∃ pages, table.Scattered key pages
  · obtain ⟨pages, scattered⟩ := several
    rw [find_of_scattered scattered]
    constructor
    · intro h
      simp [scattered.not_leads]
    · intro fault
      constructor
      · rintro ⟨⟩
        exact .inl ⟨pages, scattered, rfl⟩
      · rintro (⟨pages', scattered', rfl⟩ | ⟨unscattered, -⟩)
        · rw [scattered.unique scattered']
        · exact absurd scattered (unscattered pages)
  have unscattered := not_exists.1 several
  by_cases somewhere : ∃ current snapshot, table.Leads key current snapshot
  · obtain ⟨current, snapshot, leads⟩ := somewhere
    simp only [find_of_leads leads, leads.exists_iff, leads.forall_iff status, unscattered,
      false_and, exists_false, false_or, not_false_eq_true, implies_true, true_and]
    cases choose status current snapshot <;> simp [key, eq_comm]
  · have nowhere (c s : Option Heading) : ¬table.Leads key c s :=
      fun leads => somewhere ⟨c, s, leads⟩
    rw [find_of_nowhere unscattered nowhere]
    simp [nowhere, unscattered, key, eq_comm]

/-- A fragment that is listed on no page is ambiguous, with nothing to choose from. -/
theorem ambiguous_without_pages :
    let table : HeadingTable := { spec := "html", entries := .ofList [("#x", .pages [])] }
    table.find "x" .current = .error (.ambiguousSection "html" "#x" []) ∧
      ¬∃ pages, 2 ≤ pages.length ∧ table.entries.get? (keyOf "x") = some (.pages pages) := by
  intro table
  have listed : table.entries.get? (keyOf "x") = some (.pages []) := by decide
  refine ⟨by decide, ?_⟩
  rintro ⟨pages, several, found⟩
  obtain rfl : [] = pages := by simpa [listed] using found
  simp at several

end SpecLink.HeadingTable
