import RecordStore.Text.Blank
import RecordStore.Text.Lowercase

/-!
# Canonical names

Types and fields are found by the canonical form of their names, so that `User`, ` user ` and
`USER` name one type, while every listing shows a name as it was first written.
-/

namespace RecordStore.Text

/-- The canonical form of a name: trimmed and in lower case. Two spellings with one canonical form
name the same type or field. -/
def canonical (name : String) : String := lowercase (trim name)

end RecordStore.Text
