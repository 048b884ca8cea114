import SchemaDdl.Proofs.Capitals
import SchemaDdl.Proofs.TableNames
import SchemaDdl.Text.Words

/-!
# Names that are in StudlyCase

StudlyCase cuts a name into words and puts them together again without a mark between them, so that
a name in StudlyCase may be cut in other places than the name it comes from: `a_b` becomes `AB`, one
word of two capitals, and `AB` becomes `Ab`. Here StudlyCase is spelled out character by character,
and from that it follows which names it leaves as they are.

* **`Text.wordsFrom`**, **`Text.runWords_cons`**: words, cut before the character that starts the
  next one.
* **`Text.studlyFrom`**, **`Text.flatMap_capitalWord_runWords`**: StudlyCase, character by
  character.
* **`Text.IsStudly`**: letters and digits only, in upper case where a word starts and in lower case
  elsewhere.
* **`Text.studly_eq_self_iff`**: these are the names that StudlyCase leaves as they are.
-/

namespace SchemaDdl.Text

-- ── Where words start ─────────────────────────────────────────────────────────

namespace LetterCase

/-- A capital starts a word behind a small letter, and behind a capital if a small letter follows it
    at once. The last letter before it is what counts, whatever digits stand between. -/
def StartsWord (mode : LetterCase) (c : Char) (behind : List Char) : Prop :=
  isUppercase c = true ∧
    (mode = .lower ∨ mode = .upper ∧ behind.head?.any isLowercase = true)

/-- The open word ends before the characters that are left. -/
def EndsWord (mode : LetterCase) : List Char → Prop
  | [] => True
  | c :: cs => mode.StartsWord c cs

instance (mode : LetterCase) (c : Char) (behind : List Char) :
    Decidable (mode.StartsWord c behind) :=
  inferInstanceAs (Decidable (_ ∧ _))

instance (mode : LetterCase) : (cs : List Char) → Decidable (mode.EndsWord cs)
  | [] => isTrue trivial
  | c :: cs => inferInstanceAs (Decidable (mode.StartsWord c cs))

variable {mode : LetterCase} {c : Char} {cs : List Char}

theorem endsWord_nil : mode.EndsWord [] := trivial

theorem endsWord_cons : mode.EndsWord (c :: cs) ↔ mode.StartsWord c cs := Iff.rfl

theorem not_lower_none : ¬ (LetterCase.none = .lower ∧ isUppercase c = true) := by
  rintro ⟨h, -⟩
  cases h

theorem not_startsWord_none : ¬ LetterCase.none.StartsWord c cs := by
  rintro ⟨-, h | ⟨h, -⟩⟩
  · cases h
  · cases h

/-- A capital settles the case, whatever stood before it. -/
theorem after_of_isUppercase (mode : LetterCase) (h : isUppercase c = true) :
    mode.after c = .upper := by
  rw [after, isLowercase_of_isUppercase h, if_neg Bool.false_ne_true, if_pos h]

/-- So does a small letter. -/
theorem after_of_isLowercase (mode : LetterCase) (h : isLowercase c = true) :
    mode.after c = .lower := by
  rw [after, if_pos h]

end LetterCase

-- ── Words, character by character ─────────────────────────────────────────────

/-- The words of a run. The open word ends before a character that starts the next one. -/
def wordsFrom (mode : LetterCase) (word : List Char) : List Char → List (List Char)
  | [] => [word.reverse]
  | c :: cs =>
    if mode.StartsWord c cs then word.reverse :: wordsFrom (mode.after c) [c] cs
    else wordsFrom (mode.after c) (c :: word) cs

/-- A run is cut before the characters that start words. That a capital starts a word behind a small
    letter is seen at the small letter already, so it is excluded here for the first character. -/
theorem runWords_cons (mode : LetterCase) (word : List Char) (c : Char) (cs : List Char)
    (h : ¬ (mode = .lower ∧ isUppercase c = true)) :
    runWords mode word (c :: cs) = wordsFrom mode word (c :: cs) := by
  induction cs generalizing mode word c with
  | nil =>
      have hstays : ¬ mode.StartsWord c [] := by
        rintro ⟨hc, hlower | ⟨-, hnext⟩⟩
        · exact h ⟨hlower, hc⟩
        · exact absurd hnext Bool.false_ne_true
      rw [runWords, wordsFrom, if_neg hstays]
      rfl
  | cons next cs ih =>
      have hfresh : ∀ word : List Char, runWords .none word (next :: cs) =
          wordsFrom (LetterCase.none.after next) (next :: word) cs := by
        intro word
        rw [ih .none word next LetterCase.not_lower_none, wordsFrom,
          if_neg LetterCase.not_startsWord_none]
      rw [runWords, wordsFrom]
      by_cases hends : mode.after c = .lower ∧ isUppercase next = true
      · -- the next character starts a word
        obtain ⟨hlower, hnext⟩ := hends
        have hstays : ¬ mode.StartsWord c (next :: cs) := by
          rintro ⟨hc, -⟩
          rw [LetterCase.after_of_isUppercase mode hc] at hlower
          exact absurd hlower (by decide)
        rw [if_pos ⟨hlower, hnext⟩, hfresh, if_neg hstays, hlower, wordsFrom,
          if_pos ⟨hnext, .inl rfl⟩, LetterCase.after_of_isUppercase _ hnext,
          LetterCase.after_of_isUppercase _ hnext]
      · rw [if_neg hends]
        by_cases hstarts : mode = .upper ∧ isUppercase c = true ∧ isLowercase next = true
        · -- this character starts a word
          rw [if_pos hstarts]
          obtain ⟨hupper, hc, hnext⟩ := hstarts
          have hstays : ¬ (mode.after c).StartsWord next cs := by
            rintro ⟨hcapital, -⟩
            rw [isLowercase_of_isUppercase hcapital] at hnext
            exact absurd hnext Bool.false_ne_true
          rw [hfresh, if_pos ⟨hc, .inr ⟨hupper, hnext⟩⟩, wordsFrom, if_neg hstays,
            LetterCase.after_of_isLowercase _ hnext, LetterCase.after_of_isLowercase _ hnext]
        · -- the word goes on
          have hstays : ¬ mode.StartsWord c (next :: cs) := by
            rintro ⟨hc, hlower | ⟨hupper, hnext⟩⟩
            · exact h ⟨hlower, hc⟩
            · exact hstarts ⟨hupper, hc, hnext⟩
          rw [if_neg hstarts, ih _ _ _ hends, if_neg hstays]

-- ── StudlyCase, character by character ────────────────────────────────────────

/-- The lower case of a character inside a word, where a capital sigma looks at whether it is the
    last one. -/
def innerChar (last : Prop) [Decidable last] (c : Char) : List Char :=
  if c = capitalSigma ∧ last then [finalSigma] else lowerChar c

/-- The StudlyCase of the characters of a run behind the first one. -/
def studlyFrom (mode : LetterCase) : List Char → List Char
  | [] => []
  | c :: cs =>
    (if mode.StartsWord c cs then upperChar c else innerChar ((mode.after c).EndsWord cs) c) ++
      studlyFrom (mode.after c) cs

/-- Only the last character of a word can be a final sigma. -/
theorem lowerWord_concat (w : List Char) (c : Char) :
    lowerWord (w ++ [c]) = w.flatMap lowerChar ++ innerChar True c := by
  induction w with
  | nil =>
      show lowerWord [c] = innerChar True c
      rw [lowerWord, innerChar]
      simp only [and_true]
  | cons d w ih =>
      rw [List.cons_append, lowerWord.eq_3 d (w ++ [c]) (by simp), ih, List.flatMap_cons,
        List.append_assoc]

/-- The words of a run in StudlyCase. The open word starts with `first`, and whether its last
    character is lowered as a last one depends on whether the word ends here. -/
theorem flatMap_capitalWord_wordsFrom (mode : LetterCase) (first : Char) (inner cs : List Char) :
    (wordsFrom mode (first :: inner).reverse cs).flatMap capitalWord =
      upperChar first ++
        ((if mode.EndsWord cs then lowerWord inner else inner.flatMap lowerChar) ++
          studlyFrom mode cs) := by
  induction cs generalizing mode first inner with
  | nil =>
      rw [wordsFrom, List.reverse_reverse, if_pos LetterCase.endsWord_nil,
        List.flatMap_singleton, capitalWord, studlyFrom, List.append_nil]
  | cons c cs ih =>
      rw [wordsFrom, studlyFrom]
      by_cases hstarts : mode.StartsWord c cs
      · -- the open word ends, and the next one has nothing but its first character so far
        have hnext := ih (mode.after c) c []
        rw [List.reverse_singleton, lowerWord, List.flatMap_nil, ite_self,
          List.nil_append] at hnext
        rw [if_pos hstarts, if_pos hstarts, if_pos (LetterCase.endsWord_cons.mpr hstarts),
          List.flatMap_cons, hnext, List.reverse_reverse, capitalWord, List.append_assoc]
      · have hopen := ih (mode.after c) first (inner ++ [c])
        rw [← List.cons_append, List.reverse_append, List.reverse_singleton,
          List.singleton_append] at hopen
        have hinner : (if (mode.after c).EndsWord cs then lowerWord (inner ++ [c])
            else (inner ++ [c]).flatMap lowerChar) =
            inner.flatMap lowerChar ++ innerChar ((mode.after c).EndsWord cs) c := by
          by_cases hends : (mode.after c).EndsWord cs
          · rw [if_pos hends, lowerWord_concat, innerChar, innerChar]
            simp only [hends]
          · rw [if_neg hends, List.flatMap_append, List.flatMap_singleton, innerChar,
              if_neg (fun h => hends h.2)]
        rw [if_neg hstarts, if_neg hstarts, if_neg (mt LetterCase.endsWord_cons.mp hstarts), hopen,
          hinner, List.append_assoc]

/-- A run in StudlyCase: the first character in upper case, and then character by character. -/
theorem flatMap_capitalWord_runWords (c : Char) (cs : List Char) :
    (runWords .none [] (c :: cs)).flatMap capitalWord =
      upperChar c ++ studlyFrom (LetterCase.none.after c) cs := by
  have hopen := flatMap_capitalWord_wordsFrom (LetterCase.none.after c) c [] cs
  rw [List.reverse_singleton, lowerWord, List.flatMap_nil, ite_self, List.nil_append] at hopen
  rw [runWords_cons .none [] c cs LetterCase.not_lower_none, wordsFrom,
    if_neg LetterCase.not_startsWord_none, hopen]

-- ── Characters that stay ──────────────────────────────────────────────────────

instance (c : Char) : Decidable (IsLow c) := inferInstanceAs (Decidable (_ ∧ _))

/-- Every character is in upper case where it starts a word, and in lower case elsewhere. -/
def Fits (mode : LetterCase) : List Char → Prop
  | [] => True
  | c :: cs =>
    (if mode.StartsWord c cs then upperChar c = [c] else IsLow c) ∧ Fits (mode.after c) cs

instance (mode : LetterCase) : (cs : List Char) → Decidable (Fits mode cs)
  | [] => isTrue trivial
  | c :: cs =>
    have := instDecidableFits (mode.after c) cs
    inferInstanceAs (Decidable (_ ∧ _))

/-- Letters and digits only, the first one in upper case, and behind it every character in the case
    of its place. -/
def IsStudly (cs : List Char) : Prop :=
  cs.all isAlphanumeric = true ∧
    match cs with
    | [] => True
    | c :: cs => upperChar c = [c] ∧ Fits (LetterCase.none.after c) cs

instance : (cs : List Char) → Decidable (IsStudly cs)
  | [] => inferInstanceAs (Decidable (_ ∧ True))
  | _ :: _ => inferInstanceAs (Decidable (_ ∧ _ ∧ _))

/-- Inside a word too, a text goes on as before only behind a character that does not change. -/
theorem innerChar_append_eq_cons {last : Prop} [Decidable last] {c : Char} {xs ys : List Char} :
    innerChar last c ++ xs = c :: ys ↔ IsLow c ∧ xs = ys := by
  have hfinal : finalSigma ≠ capitalSigma := by decide +kernel
  have hsmall : lowerChar capitalSigma ≠ [capitalSigma] := by decide +kernel
  rw [innerChar, IsLow]
  by_cases hsigma : c = capitalSigma
  · have hchanges : ¬ (c ≠ capitalSigma ∧ lowerChar c = [c]) := fun h => h.1 hsigma
    split
    · constructor
      · intro heq
        exact absurd ((List.cons.inj heq).1.trans hsigma) hfinal
      · exact fun h => absurd h.1 hchanges
    · rw [lowerChar_append_eq_cons]
      constructor
      · rintro ⟨hself, -⟩
        rw [hsigma] at hself
        exact absurd hself hsmall
      · exact fun h => absurd h.1 hchanges
  · rw [if_neg fun h => hsigma h.1, lowerChar_append_eq_cons, and_iff_right hsigma]

/-- StudlyCase and what stands behind it is the text and what stands behind that if every character
    is in the case of its place already, and only then. -/
theorem studlyFrom_append_eq_iff (mode : LetterCase) (cs xs ys : List Char) :
    studlyFrom mode cs ++ xs = cs ++ ys ↔ Fits mode cs ∧ xs = ys := by
  induction cs generalizing mode with
  | nil =>
      show xs = ys ↔ True ∧ xs = ys
      rw [true_and]
  | cons c cs ih =>
      rw [studlyFrom, Fits, List.append_assoc, List.cons_append]
      split
      · rw [upperChar_append_eq_cons, ih, and_assoc]
      · rw [innerChar_append_eq_cons, ih, and_assoc]

-- ── Names ─────────────────────────────────────────────────────────────────────

/-- Letters and digits in front of a separator are a run. -/
theorem runs_append_cons {cs : List Char} (hcs : ∀ c ∈ cs, isAlphanumeric c = true) {sep : Char}
    (hsep : isAlphanumeric sep = false) (rest : List Char) :
    runs (cs ++ sep :: rest) = cs :: runs rest := by
  induction cs with
  | nil => rw [List.nil_append, runs, hsep, if_neg Bool.false_ne_true]
  | cons c cs ih =>
      obtain ⟨hc, hcs⟩ := List.forall_mem_cons.mp hcs
      rw [List.cons_append, runs, if_pos hc, ih hcs]

/-- Letters and digits alone are one run. -/
theorem runs_of_isAlphanumeric {cs : List Char} (hcs : ∀ c ∈ cs, isAlphanumeric c = true) :
    runs cs = [cs] := by
  induction cs with
  | nil => rfl
  | cons c cs ih =>
      obtain ⟨hc, hcs⟩ := List.forall_mem_cons.mp hcs
      rw [runs, if_pos hc, ih hcs]

/-- Words in StudlyCase start with a letter or a digit. -/
theorem isAlphanumeric_of_flatMap_capitalWord {ws : List (List Char)}
    (hws : ∀ w ∈ ws, ∀ c ∈ w, isAlphanumeric c = true) {d : Char} {ds : List Char}
    (h : ws.flatMap capitalWord = d :: ds) : isAlphanumeric d = true := by
  induction ws with
  | nil => exact nomatch h
  | cons w ws ih =>
      obtain ⟨hw, hrest⟩ := List.forall_mem_cons.mp hws
      rw [List.flatMap_cons] at h
      cases w with
      | nil => exact ih hrest h
      | cons c cs =>
          obtain ⟨d', ds', hcapital, hletter⟩ := upperChar_starts (hw c List.mem_cons_self)
          rw [capitalWord, hcapital] at h
          rw [← (List.cons.inj h).1]
          exact hletter

/-- A run is in StudlyCase if its first character is in upper case and the others are in the case of
    their places. -/
theorem flatMap_capitalWord_append_eq_iff {cs : List Char}
    (hcs : ∀ c ∈ cs, isAlphanumeric c = true) (xs ys : List Char) :
    (runWords .none [] cs).flatMap capitalWord ++ xs = cs ++ ys ↔ IsStudly cs ∧ xs = ys := by
  rw [← List.all_eq_true] at hcs
  cases cs with
  | nil =>
      show xs = ys ↔ IsStudly [] ∧ xs = ys
      rw [and_iff_right ⟨hcs, trivial⟩]
  | cons c cs =>
      rw [flatMap_capitalWord_runWords, List.append_assoc, List.cons_append,
        upperChar_append_eq_cons, studlyFrom_append_eq_iff, ← and_assoc, IsStudly,
        and_iff_right hcs]

/-- A text stays as it is, if its words are written with capitals and put together, just if it has
    the form of such a name: letters and digits only, with a capital wherever a word starts and
    small letters elsewhere. A separator would have to come back as the first character of the words
    behind it, and these are letters and digits. -/
theorem flatMap_capitalWord_words_eq_self_iff (cs : List Char) :
    (words cs).flatMap capitalWord = cs ↔ IsStudly cs := by
  cases hfirst : cs.find? fun c => !isAlphanumeric c with
  | none =>
      have hcs : ∀ c ∈ cs, isAlphanumeric c = true := by
        simpa only [List.find?_eq_none, Bool.not_eq_true', Bool.not_eq_false] using hfirst
      have hrun := flatMap_capitalWord_append_eq_iff hcs [] []
      rw [List.append_nil, List.append_nil, and_iff_left rfl] at hrun
      rw [words, runs_of_isAlphanumeric hcs, List.flatMap_singleton, hrun]
  | some sep =>
      obtain ⟨hsep, front, rest, rfl, hfront⟩ := List.find?_eq_some_iff_append.mp hfirst
      rw [Bool.not_eq_true'] at hsep
      simp only [Bool.not_not] at hfront
      constructor
      · -- the words behind the separator would have to start with it
        intro h
        rw [words, runs_append_cons hfront hsep, List.flatMap_cons, List.flatMap_append,
          flatMap_capitalWord_append_eq_iff hfront] at h
        have hletter := isAlphanumeric_of_flatMap_capitalWord
          (fun w hw c hc => isAlphanumeric_of_mem_words hw hc) h.2
        rw [hsep] at hletter
        exact nomatch hletter
      · intro h
        have hletter := List.all_eq_true.mp h.1 sep
          (List.mem_append_right front List.mem_cons_self)
        rw [hsep] at hletter
        exact nomatch hletter

/-- StudlyCase leaves exactly the names as they are that consist of letters and digits, in upper
    case where a word starts and in lower case elsewhere. -/
theorem studly_eq_self_iff (s : String) : studly s = s ↔ IsStudly s.toList := by
  rw [← flatMap_capitalWord_words_eq_self_iff, studly, ← String.toList_inj, String.toList_ofList]

example : ["BookAuthor", "XmlFile", "Ab", "AB", "B2B", "XMLFile", "book"].filter
    (fun s => IsStudly s.toList) = ["BookAuthor", "XmlFile", "Ab"] := by decide +kernel

/-- Of the characters before the capitals, a name in StudlyCase has digits only. -/
theorem not_mem_studly {c : Char} (hc : c.toNat < 0x41) (hletter : isAlphanumeric c = false)
    (s : String) : c ∉ (studly s).toList := by
  intro h
  rw [studly, String.toList_ofList] at h
  obtain ⟨w, hw, hmem⟩ := List.mem_flatMap.mp h
  have hword : c ∈ w := by
    cases w with
    | nil => exact hmem
    | cons d ds =>
        rw [capitalWord] at hmem
        rcases List.mem_append.mp hmem with hfirst | hrest
        · rw [eq_of_mem_upperChar hc hfirst]
          exact List.mem_cons_self
        · exact List.mem_cons_of_mem d (mem_of_mem_lowerWord (by omega) hrest)
  have htrue := isAlphanumeric_of_mem_words hw hword
  rw [hletter] at htrue
  exact nomatch htrue

/-- A name in StudlyCase has no dots. -/
theorem dot_not_mem_studly (s : String) : '.' ∉ (studly s).toList :=
  not_mem_studly (by decide) (by decide +kernel) s

end SchemaDdl.Text
