import BuildQuery.Text.Blank

/-!
# Names looked up without regard to case

Names of fields and statuses are ASCII words. A name as somebody wrote it stands for one of them
when it is the same up to ASCII case, after its outer blanks are dropped.
-/

namespace BuildQuery.Text

/-- The characters with their ASCII letters in lower case; all others stay. -/
def asciiLower (cs : List Char) : List Char := cs.map Char.toLower

/-- Whether `written` is `name` up to outer blanks and ASCII case. -/
def namesText (written name : String) : Bool :=
  asciiLower (trim written.toList) == asciiLower name.toList

end BuildQuery.Text
