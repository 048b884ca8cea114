import SchemaDdl.Text.CaseTable

/-!
# Upper and lower case

Full case mapping: a character may become several (`ß` in upper case is `SS`), and whether a capital
sigma becomes the final form depends on its neighbours.

* **`upper`**: every character on its own.
* **`lower`**: every character on its own, except that a capital sigma at the end of a word becomes
  the final sigma. A word ends where the next character that is not passed over has no case.
* **`asciiLower`**, **`sameIgnoringAsciiCase`**: the ASCII letters alone.
-/

namespace SchemaDdl.Text

/-- The lower case of one character, whatever stands around it. -/
def lowerChar (c : Char) : List Char :=
  if c.toNat < 0x80 then [c.toLower]
  else if c.toNat = 0x130 then ['i', Char.ofNat 0x307]
  else [(shifted? lowerShifts c).getD c]

/-- The upper case of one character. -/
def upperChar (c : Char) : List Char :=
  if c.toNat < 0x80 then [c.toUpper]
  else
    match upperSpellings.lookup c.toNat with
    | some spelling => spelling.map Char.ofNat
    | none => [(shifted? upperShifts c).getD c]

/-- Whether a character has a case. -/
def isCased (c : Char) : Bool :=
  if c.toNat < 0x80 then c.isAlpha else inBands casedBands c

/-- Whether a character is passed over in the search for a neighbour with a case. -/
def isCaseIgnorable (c : Char) : Bool :=
  if c.toNat < 0x80 then [0x27, 0x2E, 0x3A, 0x5E, 0x60].contains c.toNat
  else inBands caseIgnorableBands c

/-- Whether the first character that is not passed over has a case. -/
def meetsCased (cs : List Char) : Bool :=
  match cs.dropWhile isCaseIgnorable with
  | [] => false
  | c :: _ => isCased c

/-- Capital sigma, the letter whose lower case depends on its place. -/
def capitalSigma : Char := Char.ofNat 0x3A3

/-- Lower-case sigma inside a word. -/
def smallSigma : Char := Char.ofNat 0x3C3

/-- Lower-case sigma at the end of a word. -/
def finalSigma : Char := Char.ofNat 0x3C2

/-- Lower case of the characters that follow `seen`, which is kept last character first. -/
def lowerFrom (seen : List Char) : List Char → List Char
  | [] => []
  | c :: cs =>
    (if c = capitalSigma then
      [if meetsCased seen && !meetsCased cs then finalSigma else smallSigma]
    else lowerChar c) ++ lowerFrom (c :: seen) cs

/-- Lower case of a list of characters. -/
def lowerChars (cs : List Char) : List Char := lowerFrom [] cs

/-- Upper case of a list of characters. -/
def upperChars (cs : List Char) : List Char := cs.flatMap upperChar

/-- Lower case of a text. -/
def lower (s : String) : String := String.ofList (lowerChars s.toList)

/-- Upper case of a text. -/
def upper (s : String) : String := String.ofList (upperChars s.toList)

/-- Lower case of the ASCII letters, all else kept. -/
def asciiLower (s : String) : String := String.ofList (s.toList.map Char.toLower)

/-- Whether two texts differ at most in the case of ASCII letters. -/
def sameIgnoringAsciiCase (s t : String) : Bool := asciiLower s == asciiLower t

end SchemaDdl.Text
