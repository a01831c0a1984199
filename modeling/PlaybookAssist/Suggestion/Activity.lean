import PlaybookAssist.Table
import PlaybookAssist.Text.Utf8

/-!
# Ids and activities

Everything done for one document is one activity: it gets an id when the document is first seen, and
keeps it.

## Main definitions

- `IdSource` : where fresh ids come from
- `ActivityLog.idOf` : the id of the activity of a document
-/

namespace PlaybookAssist

/-- Where fresh ids come from: for each kind of thing the id of the `n`-th one, counted from
    zero. -/
structure IdSource where
  activity : Nat → Text
  suggestion : Nat → Text
  request : Nat → Text

namespace IdSource

/-- The numbers from one on behind a word. -/
def numbered (word : Text) (n : Nat) : Text :=
  word ++ '-' :: Text.ofNat (n + 1)

/-- The ids that tell what they belong to, and its number. -/
def counting : IdSource :=
  ⟨numbered "activity", numbered "suggestion", numbered "request"⟩

/-- The id that sixteen random octets give: their hexadecimal digits in five groups, the digits for
    the kind of id put in. -/
def random (octets : Octets) : Text :=
  let digits := octets.flatMap fun b => Text.hex 2 b.toNat
  let variant := Text.hexDigit (8 + (octets.getD 8 0).toNat / 16 % 4)
  Text.joinWith "-"
    [digits.take 8, (digits.drop 8).take 4, '4' :: (digits.drop 13).take 3,
     variant :: (digits.drop 17).take 3, digits.drop 20]

end IdSource

/-- The work on a document: its id, and the text that the document had at first. -/
structure Activity where
  id : Text
  content : Text
  deriving DecidableEq, Repr

/-- The activities by document. -/
abbrev ActivityLog := Table Activity

namespace ActivityLog

/-- The log in which the document has an activity, and the id of that activity. -/
def idOf (ids : IdSource) (uri content : Text) (log : ActivityLog) : ActivityLog × Text :=
  match Table.find? uri log with
  | some activity => (log, activity.id)
  | none =>
    let id := ids.activity log.length
    (Table.set uri ⟨id, content⟩ log, id)

end ActivityLog

end PlaybookAssist
