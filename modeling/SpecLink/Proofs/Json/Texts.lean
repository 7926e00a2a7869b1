import SpecLink.Json.Writer
import SpecLink.Proofs.Json.Numerals

/-!
# Texts read back

A value is read back from its indented text as it was written, if its numbers are numerals. Strings
are read back through their escapes, the text is cut into the tokens of the value, and the tokens
build it again. Main statement: `parse?_writePretty`.
-/
namespace SpecLink.Json

/-- How a character stands in a string: behind a backslash, as its code point, or as it is. -/
theorem escapeChar_cases (c : Char) :
    (∃ letter, escapeChar c = ['\\', letter] ∧ letter ≠ 'u' ∧ escapedChar? letter = some c) ∨
    (c.toNat < 32 ∧ escapeChar c =
      ['\\', 'u', '0', '0', Nat.digitChar (c.toNat / 16), Nat.digitChar (c.toNat % 16)]) ∨
    (c ≠ '"' ∧ c ≠ '\\' ∧ 32 ≤ c.toNat ∧ escapeChar c = [c]) := by
  by_cases special : c = '"' ∨ c = '\\' ∨ c = '\x08' ∨ c = '\x0c' ∨ c = '\n' ∨ c = '\r' ∨ c = '\t'
  · rcases special with rfl | rfl | rfl | rfl | rfl | rfl | rfl <;>
      exact .inl ⟨_, rfl, by decide, rfl⟩
  · simp only [not_or] at special
    obtain ⟨noQuote, noBackslash, noBackspace, noFeed, noLine, noReturn, noTab⟩ := special
    by_cases control : c.toNat < 32
    · exact .inr (.inl ⟨control, by simp [escapeChar, *]⟩)
    · exact .inr (.inr ⟨noQuote, noBackslash, Nat.not_lt.1 control, by simp [escapeChar, *]⟩)

theorem unit?_control : ∀ n < 32,
    unit? '0' '0' (Nat.digitChar (n / 16)) (Nat.digitChar (n % 16)) = some n := by
  decide

theorem unescape_escapeChar (done rest : List Char) (c : Char) :
    unescape ⟨done, none, true⟩ (escapeChar c ++ rest) = unescape ⟨c :: done, none, true⟩ rest := by
  rcases escapeChar_cases c with ⟨letter, written, noUnit, escaped⟩ | ⟨control, written⟩ |
    ⟨-, noBackslash, printable, written⟩
  · rw [written, List.cons_append, List.singleton_append, unescape]
    · rw [escaped]
      rfl
    · exact fun _ _ _ _ _ same => absurd same noUnit
  · have unit : Unescaped.pushUnit ⟨done, none, true⟩ c.toNat = ⟨c :: done, none, true⟩ := by
      have low : isLowSurrogate c.toNat = false := by simp [isLowSurrogate]; omega
      have high : isHighSurrogate c.toNat = false := by simp [isHighSurrogate]; omega
      simp [Unescaped.pushUnit, low, high, Unescaped.push, Char.ofNat_toNat]
    rw [written]
    simp only [List.cons_append, List.nil_append, unescape, unit?_control _ control]
    exact congrArg (unescape · rest) unit
  · have plain : (c == '\\' || c.toNat < 32) = false := by
      simp [noBackslash]; omega
    rw [written, List.singleton_append, unescape]
    · rw [plain]
      rfl
    · exact fun _ _ _ _ _ same => absurd same noBackslash
    · exact fun _ _ same => absurd same noBackslash

/-- A text comes back through its escapes. -/
theorem unescape_flatMap (done cs : List Char) :
    unescape ⟨done, none, true⟩ (cs.flatMap escapeChar) =
      some ⟨cs.reverse ++ done, none, true⟩ := by
  induction cs generalizing done with
  | nil => rfl
  | cons c rest ih => rw [List.flatMap_cons, unescape_escapeChar, ih]; simp

/-- The first pass over characters, from between two tokens. -/
def scan (done : List Token) (cs : List Char) : Option (Lexer × List Token) :=
  cs.foldlM lexStep (.between, done)

/-- The first pass finds the tokens in the characters. Only a character that stands without quotes
could still belong to the last of them. -/
def Spells (written : List Char) (tokens : List Token) : Prop :=
  ∀ done c rest, isBareChar c = false →
    scan done (written ++ c :: rest) = scan (tokens.reverse ++ done) (c :: rest)

theorem scan_blank {c : Char} (blank : c = ' ' ∨ c = '\n') (done : List Token) (cs : List Char) :
    scan done (c :: cs) = scan done cs := by
  rcases blank with rfl | rfl <;> rfl

theorem toList_newline (depth : Nat) :
    (newline depth).toList = '\n' :: List.replicate (2 * depth) ' ' :=
  String.toList_ofList

theorem scan_newline (depth : Nat) (done : List Token) (cs : List Char) :
    scan done ((newline depth).toList ++ cs) = scan done cs := by
  have blanks (n : Nat) : scan done (List.replicate n ' ' ++ cs) = scan done cs := by
    induction n with
    | zero => rfl
    | succ n ih => exact (scan_blank (.inl rfl) done _).trans ih
  rw [toList_newline, List.cons_append, scan_blank (.inr rfl), blanks]

theorem scan_mark {c : Char} {token : Token}
    (mark : ∀ done, lexBetween done c = some (.between, token :: done)) (done : List Token)
    (cs : List Char) : scan done (c :: cs) = scan (token :: done) cs := by
  rw [scan, List.foldlM_cons, lexStep, mark]
  rfl

theorem lexBetween_bare {c : Char} (bare : isBareChar c = true) (done : List Token) :
    lexBetween done c = some (.bare [c], done) := by
  have other (d : Char) (quoted : isBareChar d = false) : (c == d) = false := by
    rw [beq_eq_false_iff_ne]
    rintro rfl
    rw [quoted] at bare
    cases bare
  simp only [lexBetween, other ' ' (by decide), other '\n' (by decide), other '\t' (by decide),
    other '\r' (by decide), other '"' (by decide), other '[' (by decide), other ']' (by decide),
    other '\x7b' (by decide), other '\x7d' (by decide), other ',' (by decide),
    other ':' (by decide), Bool.or_false, Bool.false_eq_true, if_false, bare, if_true]

theorem foldlM_bare {cs : List Char} (bare : cs.all isBareChar = true) (read : List Char)
    (done : List Token) :
    cs.foldlM lexStep (.bare read, done) = some (.bare (cs.reverse ++ read), done) := by
  induction cs generalizing read with
  | nil => rfl
  | cons c rest ih =>
    obtain ⟨first, bare⟩ := Bool.and_eq_true_iff.1 (List.all_cons ▸ bare)
    rw [List.foldlM_cons, lexStep, if_pos first]
    simp [ih bare]

/-- A word or numeral is found whole. -/
theorem spells_word (word : String) {value : Json} (bare : word.toList.all isBareChar = true)
    (nonempty : word.toList ≠ []) (valued : bareValue? word.toList = some value) :
    Spells word.toList [.scalar value] := by
  intro done c rest quoted
  generalize word.toList = cs at *
  obtain ⟨first, later, rfl⟩ := List.exists_cons_of_ne_nil nonempty
  obtain ⟨bareFirst, bareLater⟩ := Bool.and_eq_true_iff.1 (List.all_cons ▸ bare)
  have opened : scan done (first :: later ++ c :: rest) =
      (later ++ c :: rest).foldlM lexStep (.bare [first], done) := by
    rw [scan, List.cons_append, List.foldlM_cons, lexStep, lexBetween_bare bareFirst]
    rfl
  have ended : (later.reverse ++ [first]).reverse = first :: later := by simp
  rw [opened, List.foldlM_append, foldlM_bare bareLater, scan]
  simp only [Option.bind_eq_bind, Option.bind_some, List.foldlM_cons, lexStep, quoted,
    Bool.false_eq_true, if_false, ended, valued]
  rfl

theorem foldlM_escapeChar (c : Char) (read : List Char) (done : List Token) :
    (escapeChar c).foldlM lexStep (.quoted read false, done) =
      some (.quoted ((escapeChar c).reverse ++ read) false, done) := by
  have plain {d : Char} (noQuote : d ≠ '"') (noBackslash : d ≠ '\\') (read : List Char) :
      lexStep (.quoted read false, done) d = some (.quoted (d :: read) false, done) := by
    simp [lexStep, noQuote, noBackslash]
  rcases escapeChar_cases c with ⟨letter, written, -, -⟩ | ⟨control, written⟩ |
    ⟨noQuote, noBackslash, -, written⟩
  · rw [written]
    rfl
  · have digits : ∀ n < 32, Nat.digitChar n ≠ '"' ∧ Nat.digitChar n ≠ '\\' := by decide
    have high := digits (c.toNat / 16) (by omega)
    have low := digits (c.toNat % 16) (by omega)
    have opened (cs : List Char) :
        ('\\' :: 'u' :: '0' :: '0' :: cs).foldlM lexStep (.quoted read false, done) =
          cs.foldlM lexStep (.quoted ('0' :: '0' :: 'u' :: '\\' :: read) false, done) := rfl
    simp [written, opened, plain high.1 high.2, plain low.1 low.2]
  · simp [written, plain noQuote noBackslash]

theorem foldlM_flatMap (cs read : List Char) (done : List Token) :
    (cs.flatMap escapeChar).foldlM lexStep (.quoted read false, done) =
      some (.quoted ((cs.flatMap escapeChar).reverse ++ read) false, done) := by
  induction cs generalizing read with
  | nil => rfl
  | cons c rest ih =>
    rw [List.flatMap_cons, List.foldlM_append, foldlM_escapeChar]
    simp [ih]

/-- A string is found whole, whatever it says. -/
theorem spells_text (text : Option String) :
    Spells (writeText text).toList [.scalar (.string text)] := by
  intro done c rest _
  cases text with
  | none => rfl
  | some s =>
    have opened (cs : List Char) : scan done ('"' :: cs) =
        cs.foldlM lexStep (.quoted [] false, done) := rfl
    rw [writeText, String.toList_ofList, List.cons_append, List.cons_append, opened,
      List.append_assoc, List.foldlM_append, foldlM_flatMap]
    have whole := unescape_flatMap [] s.toList
    simp [lexStep, whole, Unescaped.text?, scan]

variable {α : Type} {written : α → String} {spelling : α → List Token}

theorem spells_parts {items : List α} (nonempty : items ≠ [])
    (spelled : ∀ item ∈ items, Spells (written item).toList (spelling item)) (depth : Nat) :
    Spells (("," ++ newline depth).intercalate (items.map written)).toList
      ([.comma].intercalate (items.map spelling)) := by
  induction items with
  | nil => exact absurd rfl nonempty
  | cons item rest ih =>
    obtain ⟨first, later⟩ := List.forall_mem_cons.1 spelled
    cases rest with
    | nil => simpa using first
    | cons next rest =>
      intro done c after quoted
      have tail := ih nofun later
      simp only [List.map_cons] at tail ⊢
      rw [String.intercalate_cons_cons, List.intercalate_cons_cons]
      simp only [String.toList_append, List.append_assoc, List.reverse_append]
      calc scan done _
        _ = scan ((spelling item).reverse ++ done) (',' :: _) := first done ',' _ rfl
        _ = scan (.comma :: ((spelling item).reverse ++ done)) _ := scan_mark (fun _ => rfl) _ _
        _ = scan (.comma :: ((spelling item).reverse ++ done)) _ := scan_newline depth _ _
        _ = _ := tail _ c after quoted

/-- Parts between brackets are found one after the other. -/
theorem spells_block {left right : String} {first last : Char} {opening closing : Token}
    (leftMark : left.toList = [first]) (rightMark : right.toList = [last])
    (opens : ∀ done, lexBetween done first = some (.between, opening :: done))
    (closes : ∀ done, lexBetween done last = some (.between, closing :: done))
    {items : List α} (depth : Nat)
    (spelled : ∀ item ∈ items, Spells (written item).toList (spelling item)) :
    Spells (block left right depth (items.map written)).toList
      (opening :: [.comma].intercalate (items.map spelling) ++ [closing]) := by
  intro done c after _
  cases items with
  | nil =>
    have brackets : (block left right depth ([].map written)).toList = [first, last] := by
      simp [block, leftMark, rightMark]
    rw [brackets]
    exact (scan_mark opens ..).trans (scan_mark closes ..)
  | cons item rest =>
    have inner := spells_parts (List.cons_ne_nil item rest) spelled (depth + 1)
    have brackets : (block left right depth ((item :: rest).map written)).toList =
        first :: ((newline (depth + 1)).toList ++
          ((("," ++ newline (depth + 1)).intercalate ((item :: rest).map written)).toList ++
            ((newline depth).toList ++ [last]))) := by
      simp only [block, List.map_cons, List.isEmpty_cons, Bool.false_eq_true, if_false,
        String.toList_append, leftMark, rightMark, List.append_assoc, List.cons_append,
        List.nil_append]
    rw [brackets]
    simp only [List.cons_append, List.append_assoc, List.reverse_append, List.reverse_cons,
      List.nil_append, List.reverse_nil]
    calc scan done _
      _ = scan (opening :: done) _ := scan_mark opens _ _
      _ = scan (opening :: done) _ := scan_newline (depth + 1) _ _
      _ = scan (_ ++ opening :: done) ((newline depth).toList ++ last :: c :: after) := by
        simpa only [toList_newline, List.cons_append] using inner (opening :: done) '\n' _ rfl
      _ = scan (_ ++ opening :: done) (last :: c :: after) := scan_newline depth _ _
      _ = _ := scan_mark closes _ _

/-- Every number in the value is a numeral. -/
inductive WellFormed : Json → Prop
  | null : WellFormed .null
  | bool (value : Bool) : WellFormed (.bool value)
  | number {numeral : String} {n : Numeral} (read : Numeral.parse? numeral.toList = some n) :
    WellFormed (.number numeral)
  | string (text : Option String) : WellFormed (.string text)
  | array {items : List Json} (parts : ∀ item ∈ items, WellFormed item) :
    WellFormed (.array items)
  | object {members : List (Option String × Json)} (parts : ∀ m ∈ members, WellFormed m.2) :
    WellFormed (.object members)

theorem wellFormed_nat (n : Nat) : (nat n).WellFormed :=
  .number (by rw [Nat.toList_repr]; exact Numeral.parse?_toDigits n)

theorem wellFormed_list {α : Type} {write : α → Json} (parts : ∀ a, (write a).WellFormed)
    (items : List α) : (list write items).WellFormed := by
  refine .array fun item member => ?_
  obtain ⟨a, -, rfl⟩ := List.mem_map.1 member
  exact parts a

theorem wellFormed_record {members : List (String × Json)}
    (parts : ∀ m ∈ members, m.2.WellFormed) : (record members).WellFormed := by
  refine .object fun member listed => ?_
  obtain ⟨m, present, rfl⟩ := List.mem_map.1 listed
  exact parts m present

mutual

/-- The tokens of a value. -/
def tokens : Json → List Token
  | .array items => .openArray :: [.comma].intercalate (itemTokens items) ++ [.closeArray]
  | .object members =>
    .openObject :: [.comma].intercalate (memberTokens members) ++ [.closeObject]
  | value => [.scalar value]

def itemTokens : List Json → List (List Token)
  | [] => []
  | item :: rest => item.tokens :: itemTokens rest

def memberTokens : List (Option String × Json) → List (List Token)
  | [] => []
  | (name, value) :: rest =>
    (.scalar (.string name) :: .colon :: value.tokens) :: memberTokens rest

end

theorem itemTokens_eq (items : List Json) : itemTokens items = items.map tokens := by
  induction items with
  | nil => rfl
  | cons item rest ih => rw [itemTokens, ih, List.map_cons]

theorem memberTokens_eq (members : List (Option String × Json)) :
    memberTokens members =
      members.map fun m => .scalar (.string m.1) :: .colon :: m.2.tokens := by
  induction members with
  | nil => rfl
  | cons m rest ih => rw [memberTokens, ih, List.map_cons]

theorem indentedItems_eq (depth : Nat) (items : List Json) :
    indentedItems depth items = items.map fun item => item.writeIndented depth := by
  induction items with
  | nil => rfl
  | cons item rest ih => rw [indentedItems, ih, List.map_cons]

theorem indentedMembers_eq (depth : Nat) (members : List (Option String × Json)) :
    indentedMembers depth members =
      members.map fun m => writeText m.1 ++ ": " ++ m.2.writeIndented depth := by
  induction members with
  | nil => rfl
  | cons m rest ih => rw [indentedMembers, ih, List.map_cons]

/-- The indented text of a value spells its tokens. -/
theorem spells_writeIndented {value : Json} (wellFormed : value.WellFormed) (depth : Nat) :
    Spells (value.writeIndented depth).toList value.tokens := by
  induction wellFormed generalizing depth with
  | null => exact spells_word "null" (by decide) (by decide) rfl
  | bool value =>
    cases value
    · exact spells_word "false" (by decide) (by decide) rfl
    · exact spells_word "true" (by decide) (by decide) rfl
  | number read =>
    refine spells_word _ (Numeral.all_isBareChar_of_parse? read) ?_ (bareValue?_numeral read)
    intro empty
    rw [writeIndented] at empty
    rw [empty] at read
    cases read
  | string text => exact spells_text text
  | array parts ih =>
    rw [writeIndented, indentedItems_eq, tokens, itemTokens_eq]
    exact spells_block rfl rfl (fun _ => rfl) (fun _ => rfl) depth
      fun item member => ih item member (depth + 1)
  | object parts ih =>
    rw [writeIndented, indentedMembers_eq, tokens, memberTokens_eq]
    refine spells_block rfl rfl (fun _ => rfl) (fun _ => rfl) depth fun m member => ?_
    intro done c rest quoted
    simp only [String.toList_append, List.append_assoc]
    calc scan done _
      _ = scan (.scalar (.string m.1) :: done) (':' :: _) := spells_text m.1 done ':' _ rfl
      _ = scan (.colon :: .scalar (.string m.1) :: done) _ := scan_mark (fun _ => rfl) _ _
      _ = scan (.colon :: .scalar (.string m.1) :: done) _ := scan_blank (.inl rfl) _ _
      _ = _ := ih m member (depth + 1) _ c rest quoted
    simp

theorem tokens?_of_spells {s : String} {tokens : List Token} (spelled : Spells s.toList tokens) :
    tokens? s.toList = some tokens := by
  -- A line feed would end the last token, as the end of the text does.
  have ended : scan [] (s.toList ++ ['\n']) = some (.between, tokens.reverse) := by
    rw [spelled [] '\n' [] rfl, List.append_nil]
    rfl
  rw [scan, List.foldlM_append] at ended
  obtain ⟨⟨state, done⟩, read, last⟩ := Option.bind_eq_some_iff.1 ended
  rw [tokens?, read]
  cases state with
  | between =>
    have same : done = tokens.reverse := by simpa [lexStep, lexBetween] using last
    simp [same]
  | bare word =>
    obtain ⟨value, valued, same⟩ : ∃ value, bareValue? word.reverse = some value ∧
        .scalar value :: done = tokens.reverse := by
      simpa [lexStep, lexBetween, isBareChar, Option.bind_eq_some_iff] using last
    have whole : done.reverse ++ [.scalar value] = tokens := by
      simpa using congrArg List.reverse same
    simp [valued, whole]
  | quoted read escaping =>
    cases escaping <;> simp [lexStep] at last

namespace Builder

section containers

variable {α : Type} {holding : List α → Open} {start : Expected} {spelling : α → List Token}
  {stack : List Open}

/-- Parts with commas between them fill a container that takes each of them. -/
theorem foldlM_parts
    (comma : ∀ done, step ⟨holding done :: stack, .separator⟩ .comma =
      some ⟨holding done :: stack, start⟩)
    {parts : List α} (nonempty : parts ≠ [])
    (built : ∀ part ∈ parts, ∀ done, (spelling part).foldlM step ⟨holding done :: stack, start⟩ =
      some ⟨holding (part :: done) :: stack, .separator⟩)
    (done : List α) :
    ([Token.comma].intercalate (parts.map spelling)).foldlM step ⟨holding done :: stack, start⟩ =
      some ⟨holding (parts.reverse ++ done) :: stack, .separator⟩ := by
  induction parts generalizing done with
  | nil => exact absurd rfl nonempty
  | cons part rest ih =>
    obtain ⟨first, later⟩ := List.forall_mem_cons.1 built
    cases rest with
    | nil => simpa using first done
    | cons next rest =>
      have filled := ih nofun later (part :: done)
      simp only [List.map_cons] at filled ⊢
      rw [List.intercalate_cons_cons, List.foldlM_append, List.foldlM_append, first]
      simp [comma, filled]

/-- A container is opened, filled and closed. -/
theorem foldlM_container (holding : List α → Open) (opened start : Expected)
    (whole : List α → Json) {opening closing : Token}
    (opens : step ⟨stack, .value⟩ opening = some ⟨holding [] :: stack, opened⟩)
    (closesEmpty : step ⟨holding [] :: stack, opened⟩ closing = place stack (whole []))
    (begins : ∀ part, ∃ first rest, spelling part = first :: rest ∧
      step ⟨holding [] :: stack, opened⟩ first = step ⟨holding [] :: stack, start⟩ first)
    (comma : ∀ done, step ⟨holding done :: stack, .separator⟩ .comma =
      some ⟨holding done :: stack, start⟩)
    (closes : ∀ done, step ⟨holding done :: stack, .separator⟩ closing =
      place stack (whole done.reverse))
    {parts : List α}
    (built : ∀ part ∈ parts, ∀ done, (spelling part).foldlM step ⟨holding done :: stack, start⟩ =
      some ⟨holding (part :: done) :: stack, .separator⟩) :
    (opening :: [Token.comma].intercalate (parts.map spelling) ++ [closing]).foldlM step
      ⟨stack, .value⟩ = place stack (whole parts) := by
  cases parts with
  | nil => simp [opens, closesEmpty]
  | cons part rest =>
    have filled := foldlM_parts comma (List.cons_ne_nil part rest) built []
    obtain ⟨first, later, spelled, same⟩ := begins part
    rw [List.map_cons, spelled, List.intercalate_cons_cons_left] at filled ⊢
    have begun (tokens : List Token) :
        (opening :: first :: tokens).foldlM step ⟨stack, .value⟩ =
          (first :: tokens).foldlM step ⟨holding [] :: stack, start⟩ := by
      simp [opens, same]
    rw [List.cons_append, List.cons_append, begun, ← List.cons_append, List.foldlM_append, filled]
    simp [closes]

end containers

/-- The tokens of a value build it where a value is expected. -/
theorem foldlM_tokens {value : Json} (wellFormed : value.WellFormed) (stack : List Open) :
    value.tokens.foldlM step ⟨stack, .value⟩ = place stack value := by
  induction wellFormed generalizing stack with
  | null | bool | number | string => simp [tokens, step, begin]
  | array parts ih =>
    rw [tokens, itemTokens_eq]
    refine foldlM_container .array .itemOrClose .value .array rfl rfl ?_ (fun _ => rfl)
      (fun _ => rfl) fun item member done => ih item member _
    intro item
    cases item <;> exact ⟨_, _, rfl, rfl⟩
  | object parts ih =>
    rw [tokens, memberTokens_eq]
    exact foldlM_container .object .nameOrClose .name .object rfl rfl (fun _ => ⟨_, _, rfl, rfl⟩)
      (fun _ => rfl) (fun _ => rfl) fun m member done => ih m member _

end Builder

/-- A value comes back from its indented text. -/
theorem parse?_writePretty {value : Json} (wellFormed : value.WellFormed) :
    parse? value.writePretty = some value := by
  rw [parse?, writePretty, tokens?_of_spells (spells_writeIndented wellFormed 0)]
  simp [Builder.foldlM_tokens wellFormed, Builder.place]

end SpecLink.Json
