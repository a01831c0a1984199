import PlaybookAssist.Text.Quoted

/-!
# Words of a command line

Words stand between blanks. Quotes join blanks to a word, a backslash takes away the meaning of the
next character; between double quotes it does so only for a double quote or backslash.

## Main definitions

- `Text.words?` : the words of a line, unless a quote or an escape is left open
-/

namespace PlaybookAssist.Text

/-- Where in a line a character stands; the characters of the word so far are kept with the latest
    first. -/
inductive WordPlace where
  /-- Between words. -/
  | between
  /-- In a word, outside quotes. -/
  | inWord (word : Text)
  /-- After an opening quote. -/
  | inQuotes (quote : Char) (word : Text)
  /-- After a backslash, inside the given quotes if there are any. -/
  | escaped (quote : Option Char) (word : Text)
  deriving Repr

/-- Does the character separate words? -/
def isWordGap (c : Char) : Bool :=
  c = ' ' || c = '\t' || c = '\r' || c = '\n'

/-- The words of the rest of a line. -/
def wordsFrom? : WordPlace → Text → Option (List Text)
  | .between, [] => some []
  | .between, c :: rest =>
    if isWordGap c then wordsFrom? .between rest
    else if c = backslash then wordsFrom? (.escaped none []) rest
    else if c = singleQuote ∨ c = doubleQuote then wordsFrom? (.inQuotes c []) rest
    else wordsFrom? (.inWord [c]) rest
  | .inWord word, [] => some [word.reverse]
  | .inWord word, c :: rest =>
    if isWordGap c then (wordsFrom? .between rest).map (word.reverse :: ·)
    else if c = backslash then wordsFrom? (.escaped none word) rest
    else if c = singleQuote ∨ c = doubleQuote then wordsFrom? (.inQuotes c word) rest
    else wordsFrom? (.inWord (c :: word)) rest
  | .inQuotes _ _, [] => none
  | .inQuotes quote word, c :: rest =>
    if c = quote then wordsFrom? (.inWord word) rest
    else if c = backslash ∧ quote = doubleQuote then wordsFrom? (.escaped (some quote) word) rest
    else wordsFrom? (.inQuotes quote (c :: word)) rest
  | .escaped _ _, [] => none
  | .escaped none word, c :: rest => wordsFrom? (.inWord (c :: word)) rest
  | .escaped (some quote) word, c :: rest =>
    if c = backslash ∨ c = quote then wordsFrom? (.inQuotes quote (c :: word)) rest
    else wordsFrom? (.inQuotes quote (c :: backslash :: word)) rest

/-- The words of a line, unless a quote or an escape is left open. -/
def words? (line : Text) : Option (List Text) :=
  wordsFrom? .between line

end PlaybookAssist.Text
