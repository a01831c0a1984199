import PlaybookAssist.Table
import PlaybookAssist.Value

/-!
# Mappings under texts

A mapping that is written down with texts as its keys is looked up like the table that it is made
from.

## Main statements

- `Mapping.find?_ofTexts` : what is found under a text
-/

namespace PlaybookAssist

theorem Value.sameKey_str (s t : Text) : Value.sameKey (.str s) (.str t) = (s == t) := by
  rw [Value.sameKey]

namespace Mapping

theorem find?_ofTexts (key : Text) (ps : List (Text × Value)) :
    (ofTexts ps).find? key = Table.find? key ps := by
  induction ps with
  | nil => rfl
  | cons p rest ih =>
    obtain ⟨k, v⟩ := p
    rw [find?] at ih ⊢
    rw [ofTexts, List.map_cons, get?, Value.sameKey_str, Table.find?, ← ofTexts, ih]
    simp

theorem hasKey_ofTexts (key : Text) (ps : List (Text × Value)) :
    (ofTexts ps).hasKey key = Table.hasKey key ps := by
  rw [hasKey, find?_ofTexts, Table.hasKey]

end Mapping

end PlaybookAssist
