import TokenConcord.Text.Basic
import TokenConcord.Unicode.Property

/-!
# Words of a text

The stretches of a text between its white space.
-/

namespace TokenConcord.Text

/-- The words of a text behind the characters of an unfinished word, the latest first. -/
def wordsAfter (word : Text) : Text → List Text
  | [] => if word.isEmpty then [] else [word.reverse]
  | c :: text =>
      if Unicode.isWhiteSpace c then
        if word.isEmpty then wordsAfter [] text else word.reverse :: wordsAfter [] text
      else wordsAfter (c :: word) text

/-- The words of a text in order. No word is empty. -/
def words (text : Text) : List Text := wordsAfter [] text

end TokenConcord.Text
