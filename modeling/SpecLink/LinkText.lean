import SpecLink.Text.Lowercase

/-!
# Linking texts

Texts are indexed and looked up in one normal form. A link to a prose term also tries the singular
of its text; the literal text always comes first.
-/
namespace SpecLink.LinkText

/-- A curly apostrophe is taken for a straight one. -/
def straighten (c : Char) : Char := if c == '\u2019' then '\x27' else c

/-- The normal form of a text: straight apostrophes, single spaces between words and none at the
ends, lowercase. -/
def normalizeChars (cs : List Char) : List Char :=
  Text.lowercaseAfter [] ([' '].intercalate (Text.wordChars (cs.map straighten)))

def normalize (s : String) : String := String.ofList (normalizeChars s.toList)

/-- The readings of a normal text as a plural or possessive, in the order of trial. -/
def singulars (text : String) : List String :=
  [(Text.stripEnd? "ies" text).map (· ++ "y"), Text.stripEnd? "es" text,
    Text.stripEnd? "'s" text, Text.stripEnd? "s" text, Text.stripEnd? "'" text].filterMap id

/-- Appends a spelling unless it is empty or already listed. -/
def addSpelling (found : List String) (spelling : String) : List String :=
  if spelling.isEmpty || found.contains spelling then found else found ++ [spelling]

/-- The normal text and its other spellings, without repetition. -/
def variants (s : String) : List String :=
  let text := normalize s
  if text.isEmpty then [text] else (singulars text).foldl addSpelling [text]

/-- The letters and digits of ASCII that name a shard. -/
def isShardChar (c : Char) : Bool := c.isLower || c.isDigit

/-- The two-character name of the shard that holds a key: the first two small letters or digits of
its lowercase form, filled up with underscores. -/
def shardName (key : String) : String :=
  let letters := ((Text.lowercaseAfter [] key.toList).filter isShardChar).take 2
  String.ofList (letters ++ List.replicate (2 - letters.length) '_')

end SpecLink.LinkText
