import SchemaDdl.Proofs.Casing
import SchemaDdl.Text.Letter

/-!
# The case of a character

What the tables of capitals hold, band by band, and what follows for single characters. A character
may become several in the other case, but the first of them is then another one. So where a text
goes on as before behind a character in upper or lower case, the character was in that case.

* **`Text.isLowercase_of_isUppercase`**: no character is in both cases.
* **`Text.upperChar_cases`**: a character is its own upper case, or a letter or a digit comes first
  there.
* **`Text.upperChar_append_eq_cons`**, **`Text.lowerChar_append_eq_cons`**: texts that start with
  the upper or lower case of their first character.
-/

namespace SchemaDdl.Text

-- ── The tables ────────────────────────────────────────────────────────────────

/-- A band as a run that keeps its characters. -/
def Band.fixed (b : Band) : Shift := ⟨b.first, b.last, b.step, b.first⟩

/-- A band that is read as a shift leaves each of its characters where it is. -/
theorem Band.image?_fixed {b : Band} {n : Nat} (h : b.has n = true) : b.fixed.image? n = some n := by
  have hfirst : b.first ≤ n := by
    simp only [Band.has, Bool.and_eq_true, decide_eq_true_eq] at h
    exact h.1.1
  rw [Shift.image?, Band.fixed]
  dsimp only
  rw [if_pos h, Nat.add_sub_cancel' hfirst]

/-- No band of small letters meets a band of capitals. -/
theorem lowercaseBands_misses {low capital : Band} (hlow : low ∈ lowercaseBands)
    (hcapital : capital ∈ uppercaseBands) : low.fixed.misses capital.fixed = true := by
  have h : lowercaseBands.all (fun low =>
      uppercaseBands.all fun capital => low.fixed.misses capital.fixed) = true := by
    decide +kernel
  exact List.all_eq_true.mp (List.all_eq_true.mp h low hlow) capital hcapital

namespace Shift

variable {s : Shift} {n m : Nat}

/-- All images of a shift lie on one band. -/
def landsOn (s : Shift) (b : Band) : Bool :=
  Nat.ble (s.image + (s.last - s.first)) b.last && Nat.ble b.first s.image &&
    (Nat.beq b.step 1 ||
      (Nat.beq b.step 2 && Nat.beq s.step 2 && Nat.beq ((s.image - b.first) % 2) 0))

/-- All images of a shift are letters or digits, and none stands before the capital `A`. -/
def isCapital (s : Shift) : Bool :=
  Nat.ble 0x41 s.image &&
    (Nat.blt (s.image + (s.last - s.first)) 0xD800 ||
      (Nat.ble 0xE000 s.image && Nat.blt (s.image + (s.last - s.first)) 0x110000)) &&
    ((Nat.ble 0x80 s.image && alphanumericBands.any s.landsOn) ||
      (Nat.beq s.first s.last && isAlphanumeric (Char.ofNat s.image)))

/-- Each image of a shift that lands on a band is on the band: it lies between the ends, and where
    the band has every other character the shift has the same ones. -/
theorem has_of_landsOn {b : Band} (h : s.landsOn b = true) (hn : s.image? n = some m) :
    b.has m = true := by
  obtain ⟨⟨hfirst, hlast, hstep⟩, hm⟩ := image?_eq_some.mp hn
  simp only [landsOn, Bool.and_eq_true, Bool.or_eq_true, Nat.ble_eq, Nat.beq_eq] at h
  obtain ⟨⟨hlast', hfirst'⟩, hsteps⟩ := h
  simp only [Band.has, Bool.and_eq_true, decide_eq_true_eq, beq_iff_eq]
  refine ⟨⟨by omega, by omega⟩, ?_⟩
  rcases hsteps with hone | ⟨⟨htwo, hown⟩, heven⟩
  · rw [hone, Nat.mod_one]
  · rw [hown] at hstep
    rw [htwo]
    omega

end Shift

theorem upperShifts_isCapital {s : Shift} (hs : s ∈ upperShifts) : s.isCapital = true := by
  have h : upperShifts.all Shift.isCapital = true := by decide +kernel
  exact List.all_eq_true.mp h s hs

/-- A spelling starts with a letter other than the one it stands for, and none of its characters
    stands before the capital `A`. -/
def isCapitalSpelling (n : Nat) (spelling : List Nat) : Bool :=
  (match spelling with
    | [] => false
    | m :: _ => !Nat.beq m n && isAlphanumeric (Char.ofNat m)) &&
  spelling.all fun m => Nat.ble 0x41 m && Nat.blt m 0xD800

theorem upperSpellings_isCapital {n : Nat} {spelling : List Nat}
    (h : (n, spelling) ∈ upperSpellings) : isCapitalSpelling n spelling = true := by
  have hall : upperSpellings.all (fun e => isCapitalSpelling e.1 e.2) = true := by decide +kernel
  exact List.all_eq_true.mp hall (n, spelling) h

-- ── Characters ────────────────────────────────────────────────────────────────

/-- No character is in both cases. -/
theorem isLowercase_of_isUppercase {c : Char} (h : isUppercase c = true) :
    isLowercase c = false := by
  rw [isUppercase] at h
  rw [isLowercase]
  split at h
  · rename_i hascii
    rw [if_pos hascii]
    exact Bool.eq_false_iff.mpr (Char.not_isLower_of_isUpper h)
  · rename_i hascii
    rw [if_neg hascii]
    obtain ⟨capital, hcapital, hhas⟩ := List.any_eq_true.mp h
    refine List.any_eq_false.mpr fun low hlow hhas' => ?_
    have hmissed := Shift.image?_of_misses (lowercaseBands_misses hlow hcapital)
      (Band.image?_fixed hhas')
    rw [Band.image?_fixed hhas] at hmissed
    exact nomatch hmissed

/-- What the table puts in place of a character. -/
theorem capital_image {s : Shift} {n m : Nat} (hs : s ∈ upperShifts) (hn : s.image? n = some m) :
    0x41 ≤ (Char.ofNat m).toNat ∧ isAlphanumeric (Char.ofNat m) = true := by
  obtain ⟨⟨hfirst, hlast, -⟩, hm⟩ := Shift.image?_eq_some.mp hn
  have hcapital := upperShifts_isCapital hs
  simp only [Shift.isCapital, Bool.and_eq_true, Bool.or_eq_true, Nat.ble_eq, Nat.blt_eq,
    Nat.beq_eq] at hcapital
  obtain ⟨⟨hsigns, hplain⟩, hletter⟩ := hcapital
  have hvalid : m.isValidChar := by
    show m < 0xD800 ∨ 0xDFFF < m ∧ m < 0x110000
    omega
  have hnat : (Char.ofNat m).toNat = m := by rw [Char.toNat_ofNat, if_pos hvalid]
  refine ⟨by omega, ?_⟩
  rcases hletter with ⟨hbeyond, hlands⟩ | ⟨hsingle, hletter⟩
  · obtain ⟨b, hb, hland⟩ := List.any_eq_true.mp hlands
    rw [isAlphanumeric, hnat, if_neg (by omega), inBands, hnat]
    exact List.any_eq_true.mpr ⟨b, hb, Shift.has_of_landsOn hland hn⟩
  · have hm' : m = s.image := by omega
    rwa [hm']

/-- A small letter of ASCII becomes a letter, its capital. -/
theorem capital_toUpper {c : Char} (hascii : c.toNat < 0x80) (hlower : c.isLower = true) :
    0x41 ≤ c.toUpper.toNat ∧ isAlphanumeric c.toUpper = true := by
  have hletter : c.toUpper.isAlphanum = true := by
    rw [Char.isAlphanum, Char.isAlpha, Char.isUpper_toUpper_eq_isAlpha, Char.isAlpha, hlower,
      Bool.or_true, Bool.true_or, Bool.true_or]
  have hbounds : 0x61 ≤ c.toNat := by
    simp only [Char.isLower, Bool.and_eq_true, decide_eq_true_eq] at hlower
    exact UInt32.le_iff_toNat_le.mp hlower.1
  have hvalid : (c.toNat - 32).isValidChar := Or.inl (by omega)
  have hnat : c.toUpper.toNat = c.toNat - 32 := by
    rw [Char.toUpper_eq_of_isLower hlower, Char.toNat_ofNat, if_pos hvalid]
  refine ⟨by omega, ?_⟩
  rw [isAlphanumeric, if_pos (by omega)]
  exact hletter

/-- A spelling of the table starts with a letter or a digit, which is not the character that is
    spelled, and it has no sign of ASCII. -/
theorem capital_spelling {c : Char} {m : Nat} {ms : List Nat}
    (h : (c.toNat, m :: ms) ∈ upperSpellings) :
    isAlphanumeric (Char.ofNat m) = true ∧ Char.ofNat m ≠ c ∧
      ∀ e ∈ (m :: ms).map Char.ofNat, 0x41 ≤ e.toNat := by
  have hcapital := upperSpellings_isCapital h
  simp only [isCapitalSpelling, Bool.and_eq_true, Bool.not_eq_true', List.all_eq_true,
    Nat.ble_eq, Nat.blt_eq] at hcapital
  obtain ⟨⟨hother, hletter⟩, hbounds⟩ := hcapital
  have hnat : ∀ n ∈ m :: ms, (Char.ofNat n).toNat = n := fun n hn => by
    rw [Char.toNat_ofNat, if_pos (Or.inl (hbounds n hn).2)]
  refine ⟨hletter, fun heq => absurd ?_ (Nat.ne_of_beq_eq_false hother), fun e he => ?_⟩
  · rw [← heq, hnat m List.mem_cons_self]
  · obtain ⟨n, hn, rfl⟩ := List.mem_map.mp he
    rw [hnat n hn]
    exact (hbounds n hn).1

/-- A character is its own upper case, or a letter or a digit comes first there. The character
    itself comes first only if it is the only one, and no sign of ASCII comes in. -/
theorem upperChar_cases (c : Char) :
    upperChar c = [c] ∨ ∃ d ds, upperChar c = d :: ds ∧ isAlphanumeric d = true ∧
      (d = c → ds = []) ∧ ∀ e ∈ d :: ds, 0x41 ≤ e.toNat := by
  rw [upperChar]
  split
  · rename_i hascii
    by_cases hlower : c.isLower = true
    · obtain ⟨hsigns, hletter⟩ := capital_toUpper hascii hlower
      refine .inr ⟨c.toUpper, [], rfl, hletter, fun _ => rfl, fun e he => ?_⟩
      rw [List.mem_singleton.mp he]
      exact hsigns
    · exact .inl (by rw [Char.toUpper_eq_of_not_isLower hlower])
  · split
    · rename_i spelling hspelling
      have hmem : (c.toNat, spelling) ∈ upperSpellings := by
        obtain ⟨front, rest, hlist, -⟩ := List.lookup_eq_some_iff.mp hspelling
        rw [hlist]
        exact List.mem_append_right front List.mem_cons_self
      cases spelling with
      | nil => exact nomatch upperSpellings_isCapital hmem
      | cons m ms =>
          obtain ⟨hletter, hother, hsigns⟩ := capital_spelling hmem
          exact .inr ⟨_, _, rfl, hletter, fun heq => absurd heq hother, hsigns⟩
    · rw [shifted?]
      cases hfound : upperShifts.findSome? (·.image? c.toNat) with
      | none => exact .inl rfl
      | some m =>
          obtain ⟨s, hs, hm⟩ := List.exists_of_findSome?_eq_some hfound
          obtain ⟨hsigns, hletter⟩ := capital_image hs hm
          refine .inr ⟨_, [], rfl, hletter, fun _ => rfl, fun e he => ?_⟩
          rw [List.mem_singleton.mp he]
          exact hsigns

/-- A letter or a digit starts with a letter or a digit in upper case. -/
theorem upperChar_starts {c : Char} (hc : isAlphanumeric c = true) :
    ∃ d ds, upperChar c = d :: ds ∧ isAlphanumeric d = true := by
  rcases upperChar_cases c with hself | ⟨d, ds, hcapital, hletter, -⟩
  · exact ⟨c, [], hself, hc⟩
  · exact ⟨d, ds, hcapital, hletter⟩

/-- Upper-casing gives a character before the capitals for that character only. -/
theorem eq_of_mem_upperChar {c d : Char} (hc : c.toNat < 0x41) (h : c ∈ upperChar d) : d = c := by
  rcases upperChar_cases d with hself | ⟨d', ds, hcapital, -, -, hsigns⟩
  · rw [hself] at h
    exact (List.mem_singleton.mp h).symm
  · rw [hcapital] at h
    exact absurd (hsigns c h) (Nat.not_le.mpr hc)

section Images

variable {c : Char} {image xs ys : List Char}

/-- A text starts with what a character becomes and with the character itself, if the character
    does not change. -/
theorem image_append_eq_cons (h : ∃ d ds, image = d :: ds ∧ (d = c → ds = [])) :
    image ++ xs = c :: ys ↔ image = [c] ∧ xs = ys := by
  obtain ⟨d, ds, rfl, honly⟩ := h
  constructor
  · intro heq
    obtain ⟨hd, hrest⟩ := List.cons.inj heq
    rw [honly hd] at hrest ⊢
    exact ⟨by rw [hd], hrest⟩
  · rintro ⟨hself, rfl⟩
    rw [hself]
    rfl

theorem upperChar_append_eq_cons : upperChar c ++ xs = c :: ys ↔ upperChar c = [c] ∧ xs = ys := by
  refine image_append_eq_cons ?_
  rcases upperChar_cases c with hself | ⟨d, ds, hcapital, -, honly, -⟩
  · exact ⟨c, [], hself, fun _ => rfl⟩
  · exact ⟨d, ds, hcapital, honly⟩

/-- If a character still comes first after it was put into lower case, it was left alone. -/
theorem lowerChar_append_eq_cons : lowerChar c ++ xs = c :: ys ↔ lowerChar c = [c] ∧ xs = ys := by
  refine image_append_eq_cons ?_
  rw [lowerChar]
  split
  · exact ⟨_, _, rfl, fun _ => rfl⟩
  · split
    · rename_i hdotted
      refine ⟨_, _, rfl, fun heq => ?_⟩
      rw [← heq] at hdotted
      exact absurd hdotted (by decide)
    · exact ⟨_, _, rfl, fun _ => rfl⟩

end Images

end SchemaDdl.Text
