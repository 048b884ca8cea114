import SchemaDdl.Text.Case
import SchemaDdl.Text.Letter

/-!
# Words in a name

A name is cut into words, and the words are put together again in another style.

* Characters that are neither letters nor digits separate words and are dropped.
* Between two letters a word ends where a lower-case letter meets an upper-case one (`bookAuthor`),
  and before the last letter of a run of capitals when a lower-case letter follows it (`XMLFile`).
  Digits change nothing: the case of the last letter before them still counts.

`studly` joins the words with nothing and capitalizes each; `snake` joins them with underscores.
-/

namespace SchemaDdl.Text

/-- The case of the last letter of the open word, when it had a letter with a case. -/
inductive LetterCase where
  | none
  | lower
  | upper
  deriving DecidableEq, Repr

/-- The case of the last letter after one more character. -/
def LetterCase.after (mode : LetterCase) (c : Char) : LetterCase :=
  if isLowercase c then .lower else if isUppercase c then .upper else mode

/-- Cut a run of letters and digits into words. `word` is the open word, last character first, and
    `mode` the case of its last letter with a case. -/
def runWords (mode : LetterCase) (word : List Char) : List Char → List (List Char)
  | [] => if word.isEmpty then [] else [word.reverse]
  | [c] => [(c :: word).reverse]
  | c :: next :: cs =>
    if mode.after c = .lower ∧ isUppercase next then
      (c :: word).reverse :: runWords .none [] (next :: cs)
    else if mode = .upper ∧ isUppercase c ∧ isLowercase next then
      word.reverse :: runWords .none [c] (next :: cs)
    else runWords (mode.after c) (c :: word) (next :: cs)

/-- The maximal runs of letters and digits. Empty runs may occur and hold no word. -/
def runs : List Char → List (List Char)
  | [] => [[]]
  | c :: cs =>
    if isAlphanumeric c then
      match runs cs with
      | [] => [[c]]
      | r :: rs => (c :: r) :: rs
    else [] :: runs cs

/-- The words of a name. -/
def words (cs : List Char) : List (List Char) :=
  (runs cs).flatMap (runWords .none [])

/-- Lower case of a word, letter by letter, with the final sigma at its end. -/
def lowerWord : List Char → List Char
  | [] => []
  | [c] => if c = capitalSigma then [finalSigma] else lowerChar c
  | c :: cs => lowerChar c ++ lowerWord cs

/-- A word with its first character in upper case and the rest in lower case. -/
def capitalWord : List Char → List Char
  | [] => []
  | c :: cs => upperChar c ++ lowerWord cs

/-- A name in StudlyCase: `book_author` and `bookAuthor` both become `BookAuthor`. -/
def studly (s : String) : String :=
  String.ofList ((words s.toList).flatMap capitalWord)

/-- A name in snake_case: `BookAuthor` becomes `book_author`. -/
def snake (s : String) : String :=
  String.ofList (['_'].intercalate ((words s.toList).map lowerWord))

end SchemaDdl.Text
