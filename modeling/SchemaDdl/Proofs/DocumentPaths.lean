import SchemaDdl.Error
import SchemaDdl.Proofs.Members

/-!
# Places in a document

The path of a failure is a text. It can be read back into steps, and the steps can be followed from
the root of a document, member by member and item by item.

* **`DocumentPath.read?`**: the root and the steps that a text spells.
* **`DocumentPath.read?_text`**: the text of a path spells that path, if no key on the way holds a
  character that starts a step, and neither does the root.
* **`Json.at?`**: the value behind some steps.
* **`Json.Locates`**: the steps lead to a value, or to a member that an object could have.
-/

namespace SchemaDdl

-- ── Reading paths ─────────────────────────────────────────────────────────────

/-- A character that starts a step in the text of a path. -/
def PathStep.starts (c : Char) : Bool := c == '.' || c == '['

/-- A text without a character that starts a step. -/
def PathStep.PlainText (s : String) : Prop := ∀ c ∈ s.toList, starts c = false

-- over the characters of the text, not over all characters there are
instance (s : String) : Decidable (PathStep.PlainText s) :=
  List.decidableBAll (fun c => PathStep.starts c = false) s.toList

/-- A step whose text can be told from the steps around it. -/
def PathStep.Plain : PathStep → Prop
  | key name => PlainText name
  | item _ => True

/-- The position that digits and a closing bracket spell. -/
def PathStep.position? (cs : List Char) : Option Nat :=
  let digits := cs.dropLast
  if cs.getLast? = some ']' ∧ digits ≠ [] ∧ digits.all Char.isDigit = true then
    some (Nat.ofDigitChars 10 digits 0)
  else none

/-- The steps that a text spells, behind the characters in front of the first step. -/
def PathStep.readAll? : List Char → Option (List Char × List PathStep)
  | [] => some ([], [])
  | c :: cs =>
    match readAll? cs with
    | none => none
    | some (front, steps) =>
      if c = '.' then some ([], key (String.ofList front) :: steps)
      else if c = '[' then (position? front).map fun i => ([], item i :: steps)
      else some (c :: front, steps)

/-- The path that a text spells: `.` and a key for a member, a position in brackets for an item. -/
def DocumentPath.read? (s : String) : Option DocumentPath :=
  (PathStep.readAll? s.toList).map fun (front, steps) => ⟨String.ofList front, steps⟩

namespace PathStep

theorem plain_concat {steps : List PathStep} {step : PathStep}
    (hsteps : ∀ step ∈ steps, step.Plain) (hstep : step.Plain) :
    ∀ step' ∈ steps ++ [step], step'.Plain := by
  intro step' hmem
  rcases List.mem_append.mp hmem with hmem | hmem
  · exact hsteps step' hmem
  · exact List.mem_singleton.mp hmem ▸ hstep

/-- Characters that start no step are put in front. -/
theorem readAll?_append {front cs rest : List Char} {steps : List PathStep}
    (hplain : ∀ c ∈ front, starts c = false) (h : readAll? cs = some (rest, steps)) :
    readAll? (front ++ cs) = some (front ++ rest, steps) := by
  induction front with
  | nil => exact h
  | cons c front ih =>
      have hc := hplain c List.mem_cons_self
      rw [starts, Bool.or_eq_false_iff, beq_eq_false_iff_ne, beq_eq_false_iff_ne] at hc
      rw [List.cons_append, readAll?, ih fun c' hc' => hplain c' (List.mem_cons_of_mem c hc')]
      dsimp only
      rw [if_neg hc.1, if_neg hc.2]
      rfl

theorem toList_toString (i : Nat) : (toString i).toList = Nat.toDigits 10 i := by
  rw [Nat.toString_eq_ofList_toDigits, String.toList_ofList]

/-- A position is read back from its digits. -/
theorem position?_toString (i : Nat) : position? ((toString i).toList ++ [']']) = some i := by
  have hdigits : (Nat.toDigits 10 i).all Char.isDigit = true := List.all_eq_true.mpr fun _ hc =>
    Nat.isDigit_of_mem_toDigits (by decide) (by decide) hc
  rw [toList_toString, position?, List.getLast?_concat, List.dropLast_concat,
    if_pos ⟨rfl, Nat.toDigits_ne_nil, hdigits⟩, Nat.ofDigitChars_ten_toDigits]

/-- Digits start no step. -/
theorem plainText_toString (i : Nat) : PlainText (toString i) := by
  intro c hc
  rw [toList_toString] at hc
  have hdigit : c.isDigit = true := Nat.isDigit_of_mem_toDigits (by decide) (by decide) hc
  rw [starts, Bool.or_eq_false_iff, beq_eq_false_iff_ne, beq_eq_false_iff_ne]
  constructor
  · rintro rfl
    exact absurd hdigit (by decide)
  · rintro rfl
    exact absurd hdigit (by decide)

/-- One more step in front of a text is read in front of its steps. -/
theorem readAll?_text {step : PathStep} (hplain : step.Plain) {cs : List Char}
    {steps : List PathStep} (h : readAll? cs = some ([], steps)) :
    readAll? (step.text.toList ++ cs) = some ([], step :: steps) := by
  cases step with
  | key name =>
      have hfront := readAll?_append hplain h
      rw [List.append_nil] at hfront
      have htext : (key name).text.toList = '.' :: name.toList := by
        simp [text, Text.concat]
      rw [htext, List.cons_append, readAll?, hfront]
      dsimp only
      rw [if_pos rfl, String.ofList_toList]
  | item i =>
      have hclosing : ∀ c ∈ (toString i).toList ++ [']'], starts c = false := by
        intro c hc
        rcases List.mem_append.mp hc with hc | hc
        · exact plainText_toString i c hc
        · exact List.mem_singleton.mp hc ▸ rfl
      have hfront := readAll?_append hclosing h
      rw [List.append_nil] at hfront
      have htext : (item i).text.toList = '[' :: ((toString i).toList ++ [']']) := by
        simp [text, Text.concat]
      rw [htext, List.cons_append, readAll?, hfront]
      dsimp only
      rw [if_neg (by decide), if_pos rfl, position?_toString]
      rfl

end PathStep

namespace DocumentPath

/-- The text of a path is its root and then its steps one after the other. -/
theorem toList_text (p : DocumentPath) :
    p.text.toList = p.root.toList ++ p.steps.flatMap fun step => step.text.toList := by
  have hsteps : ∀ (steps : List PathStep) (s : String),
      (steps.foldl (fun s step => s ++ step.text) s).toList =
        s.toList ++ steps.flatMap fun step => step.text.toList := by
    intro steps
    induction steps with
    | nil => simp
    | cons step steps ih =>
        intro s
        rw [List.foldl_cons, ih, String.toList_append, List.flatMap_cons, List.append_assoc]
  exact hsteps p.steps p.root

/-- The text of a path spells the path. -/
theorem read?_text {p : DocumentPath} (hroot : PathStep.PlainText p.root)
    (hplain : ∀ step ∈ p.steps, step.Plain) : read? p.text = some p := by
  have hsteps : ∀ steps : List PathStep, (∀ step ∈ steps, step.Plain) →
      PathStep.readAll? (steps.flatMap fun step => step.text.toList) = some ([], steps) := by
    intro steps
    induction steps with
    | nil => exact fun _ => rfl
    | cons step steps ih =>
        intro h
        rw [List.flatMap_cons]
        exact PathStep.readAll?_text (h step List.mem_cons_self)
          (ih fun step' hstep' => h step' (List.mem_cons_of_mem step hstep'))
  rw [read?, toList_text, PathStep.readAll?_append hroot (hsteps p.steps hplain), List.append_nil]
  show some (DocumentPath.mk (String.ofList p.root.toList) p.steps) = some p
  rw [String.ofList_toList]

example : read? "$.entities[12].Fields" =
    some ⟨"$", [.key "entities", .item 12, .key "Fields"]⟩ := by decide +kernel

end DocumentPath

-- ── Following paths ───────────────────────────────────────────────────────────

namespace Json

/-- The value one step away: a member under a key in whatever case, or an item of an array. -/
def next? (v : Json) : PathStep → Option Json
  | .key name => v.member? name
  | .item i =>
    match v with
    | array items => items[i]?
    | _ => none

/-- The value some steps away. -/
def at? (v : Json) : List PathStep → Option Json
  | [] => some v
  | step :: steps => (v.next? step).bind (·.at? steps)

/-- Steps lead to a value of a document, or to an object of it in which only the last key is not
    there. -/
def Locates (v : Json) (steps : List PathStep) : Prop :=
  (∃ w, v.at? steps = some w) ∨
    ∃ before name w, steps = before ++ [.key name] ∧ v.at? before = some w ∧
      w.isObject = true ∧ w.member? name = none

/-- Some steps and then others lead where all of them lead. -/
theorem at?_append (v : Json) (steps steps' : List PathStep) :
    v.at? (steps ++ steps') = (v.at? steps).bind (·.at? steps') := by
  induction steps generalizing v with
  | nil => rfl
  | cons step steps ih =>
      rw [List.cons_append, at?, at?, Option.bind_assoc]
      congr 1
      funext w
      exact ih w

theorem at?_concat {v w : Json} {steps : List PathStep} (h : v.at? steps = some w)
    (step : PathStep) : v.at? (steps ++ [step]) = w.next? step := by
  rw [at?_append, h, Option.bind_some, at?]
  exact Option.bind_fun_some (w.next? step)

/-- Every key names a place in an object, whether there is such a member or not. -/
theorem locates_key {v w : Json} {steps : List PathStep} (h : v.at? steps = some w)
    (hobject : w.isObject = true) (name : String) : v.Locates (steps ++ [.key name]) := by
  cases hmember : w.member? name with
  | some found => exact .inl ⟨found, by rw [at?_concat h, next?, hmember]⟩
  | none => exact .inr ⟨steps, name, w, rfl, h, hobject, hmember⟩

end Json

end SchemaDdl
