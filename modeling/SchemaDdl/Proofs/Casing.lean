import Mathlib
import SchemaDdl.Text.Case

/-!
# Lower case twice is lower case once

Lower-casing leaves no character behind that it would change again. For the characters beyond ASCII
this is a matter of the table: no run of it sends a character onto a run, its own included. Where a
run of every second character lies among its own images, they are told apart by being odd and even.

* **`Text.IsLow`**: a character that lower-casing leaves alone, wherever it stands.
* **`Text.lower_lower`**: a text in lower case is its own lower case.
-/

namespace SchemaDdl.Text

-- ── The table ─────────────────────────────────────────────────────────────────

namespace Shift

variable {s t : Shift} {n m : Nat}

/-- No image of the first shift lies on the band of the second: it lies before it, or behind it, or
    between its steps. -/
def misses (s t : Shift) : Bool :=
  Nat.blt (s.image + (s.last - s.first)) t.first || Nat.blt t.last s.image ||
    (Nat.beq t.step 2 && (Nat.beq s.step 2 || Nat.beq s.first s.last) &&
      Nat.beq ((s.image + t.first) % 2) 1)

/-- All images of a shift are characters beyond ASCII, apart from a single one that may be the small
    letter `k`. -/
def isBeyondAscii (s : Shift) : Bool :=
  (Nat.ble 0x80 s.image || (Nat.beq s.image 0x6B && Nat.beq s.first s.last)) &&
    (Nat.blt (s.image + (s.last - s.first)) 0xD800 ||
      (Nat.ble 0xE000 s.image && Nat.blt (s.image + (s.last - s.first)) 0x110000))

/-- A shift moves characters between its ends, every so many of them, by the same distance. -/
theorem image?_eq_some :
    s.image? n = some m ↔
      (s.first ≤ n ∧ n ≤ s.last ∧ (n - s.first) % s.step = 0) ∧ s.image + (n - s.first) = m := by
  simp [image?, Band.has, and_assoc]

/-- An image of one shift is no character of another one that it misses. -/
theorem image?_of_misses (h : s.misses t = true) (hn : s.image? n = some m) :
    t.image? m = none := by
  obtain ⟨⟨hfirst, hlast, hstep⟩, hm⟩ := image?_eq_some.mp hn
  simp only [misses, Bool.or_eq_true, Bool.and_eq_true, Nat.blt_eq, Nat.beq_eq] at h
  refine Option.eq_none_iff_forall_ne_some.mpr fun k hk => ?_
  obtain ⟨⟨hfirst', hlast', hstep'⟩, -⟩ := image?_eq_some.mp hk
  rcases h with (hbefore | hbehind) | ⟨⟨htwo, hown⟩, hodd⟩
  · omega
  · omega
  · rw [htwo] at hstep'
    rcases hown with htwo' | hsingle
    · rw [htwo'] at hstep
      omega
    · omega

end Shift

/-- The one character beyond ASCII that becomes two, as a run of its own. -/
def dottedCapital : Shift := ⟨0x130, 0x130, 1, 0x69⟩

/-- No run of the table sends a character onto a run, nor onto the one character that becomes
    two. -/
theorem lowerShifts_misses {s t : Shift} (hs : s ∈ lowerShifts)
    (ht : t ∈ dottedCapital :: lowerShifts) : s.misses t = true := by
  have h : lowerShifts.all (fun s => (dottedCapital :: lowerShifts).all s.misses) = true := by
    decide +kernel
  exact List.all_eq_true.mp (List.all_eq_true.mp h s hs) t ht

theorem lowerShifts_isBeyondAscii {s : Shift} (hs : s ∈ lowerShifts) : s.isBeyondAscii = true := by
  have h : lowerShifts.all Shift.isBeyondAscii = true := by decide +kernel
  exact List.all_eq_true.mp h s hs

-- ── Characters ────────────────────────────────────────────────────────────────

/-- A character that lower-casing leaves alone, wherever it stands. -/
def IsLow (c : Char) : Prop := c ≠ capitalSigma ∧ lowerChar c = [c]

/-- What the table sends a character to is a character beyond ASCII, or the small letter `k`. -/
theorem toNat_image {s : Shift} {n m : Nat} (hs : s ∈ lowerShifts) (hn : s.image? n = some m) :
    (Char.ofNat m).toNat = m ∧ (0x80 ≤ m ∨ m = 0x6B) := by
  obtain ⟨⟨hfirst, hlast, -⟩, hm⟩ := Shift.image?_eq_some.mp hn
  have hplain := lowerShifts_isBeyondAscii hs
  simp only [Shift.isBeyondAscii, Bool.and_eq_true, Bool.or_eq_true, Nat.ble_eq, Nat.blt_eq,
    Nat.beq_eq] at hplain
  have hvalid : m.isValidChar := by
    show m < 0xD800 ∨ 0xDFFF < m ∧ m < 0x110000
    omega
  exact ⟨by rw [Char.toNat_ofNat, if_pos hvalid], by omega⟩

/-- What the table sends a character to is in lower case. -/
theorem isLow_image {s : Shift} {n m : Nat} (hs : s ∈ lowerShifts) (hn : s.image? n = some m) :
    IsLow (Char.ofNat m) := by
  have hmissed : ∀ t ∈ dottedCapital :: lowerShifts, t.image? m = none :=
    fun t ht => Shift.image?_of_misses (lowerShifts_misses hs ht) hn
  obtain ⟨hnat, hbeyond⟩ := toNat_image hs hn
  have hdotted : m ≠ 0x130 := by
    rintro rfl
    exact nomatch hmissed _ List.mem_cons_self
  have hsigma : m ≠ 0x3A3 := by
    rintro rfl
    have hmem : (⟨0x3A3, 0x3AB, 1, 0x3C3⟩ : Shift) ∈ lowerShifts := by decide +kernel
    exact nomatch hmissed _ (List.mem_cons_of_mem _ hmem)
  refine ⟨fun heq => hsigma ?_, ?_⟩
  · rw [← hnat, heq]
    rfl
  · by_cases hascii : m < 0x80
    · have hk : m = 0x6B := by omega
      rw [hk]
      rfl
    · have hnone : lowerShifts.findSome? (·.image? m) = none :=
        List.findSome?_eq_none_iff.mpr fun t ht => hmissed t (List.mem_cons_of_mem _ ht)
      rw [lowerChar, hnat, if_neg hascii, if_neg hdotted, shifted?, hnat, hnone]
      rfl

/-- The lower case of an ASCII character is an ASCII character. -/
theorem toNat_toLower_lt {c : Char} (h : c.toNat < 0x80) : c.toLower.toNat < 0x80 := by
  by_cases hupper : c.isUpper = true
  · have hlast : c.toNat ≤ 0x5A := by
      simp only [Char.isUpper, decide_eq_true_eq] at hupper
      exact UInt32.le_iff_toNat_le.mp hupper.2
    have hvalid : (c.toNat + 32).isValidChar := Or.inl (by omega)
    rw [Char.toLower_eq_of_isUpper hupper, Char.toNat_ofNat, if_pos hvalid]
    omega
  · rw [Char.toLower_eq_of_not_isUpper hupper]
    exact h

/-- An ASCII character that is its own small letter is in lower case. -/
theorem isLow_of_ascii {c : Char} (h : c.toNat < 0x80) (hlow : c.toLower = c) : IsLow c := by
  refine ⟨fun heq => ?_, by rw [lowerChar, if_pos h, hlow]⟩
  rw [heq] at h
  exact absurd h (by decide +kernel)

/-- Lower-casing a character gives characters in lower case. -/
theorem isLow_of_mem_lowerChar {c d : Char} (hd : d ≠ capitalSigma) (hc : c ∈ lowerChar d) :
    IsLow c := by
  rw [lowerChar] at hc
  split at hc
  · rename_i hascii
    rw [List.mem_singleton.mp hc]
    exact isLow_of_ascii (toNat_toLower_lt hascii) (Char.toLower_toLower_eq_toLower d)
  · rename_i hascii
    split at hc
    · rcases List.mem_cons.mp hc with rfl | hdot
      · exact isLow_of_ascii (by decide) rfl
      · rw [List.mem_singleton.mp hdot]
        exact ⟨by decide +kernel, by decide +kernel⟩
    · rename_i hdotted
      rw [List.mem_singleton] at hc
      rw [shifted?] at hc
      cases hfound : lowerShifts.findSome? (·.image? d.toNat) with
      | none =>
          rw [hfound] at hc
          have hcd : c = d := hc
          rw [hcd]
          refine ⟨hd, ?_⟩
          rw [lowerChar, if_neg hascii, if_neg hdotted, shifted?, hfound]
          rfl
      | some m =>
          rw [hfound] at hc
          have hcm : c = Char.ofNat m := hc
          rw [hcm]
          obtain ⟨s, hs, hm⟩ := List.exists_of_findSome?_eq_some hfound
          exact isLow_image hs hm

-- ── Texts ─────────────────────────────────────────────────────────────────────

/-- Characters in lower case stay as they are. -/
theorem lowerFrom_of_isLow (seen : List Char) {cs : List Char} (h : ∀ c ∈ cs, IsLow c) :
    lowerFrom seen cs = cs := by
  induction cs generalizing seen with
  | nil => rfl
  | cons c cs ih =>
      obtain ⟨hsigma, hlow⟩ := h c List.mem_cons_self
      rw [lowerFrom, if_neg hsigma, hlow,
        ih (c :: seen) fun d hd => h d (List.mem_cons_of_mem c hd)]
      rfl

/-- Lower-casing characters gives characters in lower case. -/
theorem isLow_of_mem_lowerFrom {seen cs : List Char} {c : Char} (hc : c ∈ lowerFrom seen cs) :
    IsLow c := by
  induction cs generalizing seen with
  | nil => exact nomatch hc
  | cons d cs ih =>
      rw [lowerFrom] at hc
      rcases List.mem_append.mp hc with hfirst | hrest
      · split at hfirst
        · -- both small forms of sigma are in lower case
          rw [List.mem_singleton] at hfirst
          rw [hfirst]
          split
          · exact ⟨by decide +kernel, by decide +kernel⟩
          · exact ⟨by decide +kernel, by decide +kernel⟩
        · rename_i hd
          exact isLow_of_mem_lowerChar hd hfirst
      · exact ih hrest

/-- A text in lower case is its own lower case. -/
theorem lower_lower (s : String) : lower (lower s) = lower s := by
  rw [lower, lower, String.toList_ofList, lowerChars]
  exact congrArg String.ofList (lowerFrom_of_isLow [] fun c hc => isLow_of_mem_lowerFrom hc)

end SchemaDdl.Text
