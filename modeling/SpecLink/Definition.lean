import SpecLink.Candidate
import SpecLink.LinkText

/-!
# Definitions of a document

A definition gives its linking texts between bars: those that other documents may use, and those
for the document alone. Each text makes it a candidate of its own.
-/
namespace SpecLink

structure Definition where
  id : String
  kind : DefinitionKind := .dfn
  /-- The linking texts, with bars between them. -/
  texts : String
  /-- The texts that link only inside the document. -/
  localTexts : Option String := none
  /-- The terms that the definition is for. -/
  scope : SortedSet := ∅
  line : Option UInt32 := none
  deriving DecidableEq

namespace Definition

/-- The texts between bars, in normal form, without empty ones. -/
def splitTexts (texts : String) : List String :=
  ((Text.splitAt '|' texts).map LinkText.normalize).filter fun text => !text.isEmpty

def publicTexts (d : Definition) : List String := splitTexts d.texts

def privateTexts (d : Definition) : List String := (d.localTexts.map splitTexts).getD []

/-- The first text that is both public and private. -/
def conflict? (d : Definition) : Option String := d.publicTexts.find? d.privateTexts.contains

/-- What a scope `@foo/bar` also stands for: the bare `bar`. -/
def descriptorOf? (scope : String) : Option String := do
  let rest ← Text.stripStart? "@" scope
  let (_, after) ← Text.cutAt? '/' rest
  let descriptor := Text.trim after
  if descriptor.isEmpty then none else some descriptor

/-- The scope with the descriptors that its members also stand for. -/
def expandScope (scope : SortedSet) : SortedSet :=
  (scope.members.filterMap descriptorOf?).foldl SortedSet.insert scope

/-- The candidate for one of the texts; the public ones are exported. -/
def candidate (d : Definition) (text : String) (exported : Bool) : Candidate where
  text
  kind := d.kind
  origin := .document d.id d.line
  scope := expandScope d.scope
  exported
  normative := true

/-- The candidates of a definition, the public ones first. -/
def candidates (d : Definition) : List Candidate :=
  d.publicTexts.map (d.candidate · true) ++ d.privateTexts.map (d.candidate · false)

/-- The `#id` of the definition and, if known, its line. -/
def site (d : Definition) : String := documentSite d.id d.line

end Definition

end SpecLink
