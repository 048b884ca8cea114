import Mathlib.Data.List.Forall2
import Mathlib.Data.List.Perm.Subperm

/-!
# Lists in step

Much of the theory compares two lists item by item: entities before and after a step, names and the
fields behind them, relations and their foreign keys. The comparison is always `List.Forall₂`, and
this file has what is needed of it, together with what it means for a chain of steps to go through.

* **`forall₂_getElem?`**, **`forall₂_mem_right`**: partners of items.
* **`optionRel_getElem?`**, **`optionRel_find?`**: what is looked up in two such lists.
* **`bind_eq_ok`**, **`mapM_eq_ok`**, **`foldlM_keeps`**, **`foldlM_collects`**: chains that go
  through.
* **`Agree`**: chains that fail together or go through with related answers.
-/

namespace SchemaDdl

section Partners

variable {α β : Type} {R S : α → β → Prop} {l : List α} {l' : List β}

/-- Items at one place of two related lists are related. -/
theorem optionRel_getElem? (h : List.Forall₂ R l l') (i : Nat) : Option.Rel R l[i]? l'[i]? := by
  induction h generalizing i with
  | nil => exact .none
  | cons hab _ ih =>
      cases i with
      | zero => exact .some hab
      | succ i => exact ih i

/-- Lists that are related item by item have related items at every place. -/
theorem forall₂_getElem? (h : List.Forall₂ R l l') {i : Nat} {a : α} (ha : l[i]? = some a) :
    ∃ b, l'[i]? = some b ∧ R a b := by
  have hrel := optionRel_getElem? h i
  rw [ha] at hrel
  generalize l'[i]? = b at hrel ⊢
  cases hrel with
  | some hab => exact ⟨_, rfl, hab⟩

theorem forall₂_getElem?_right (h : List.Forall₂ R l l') {i : Nat} {b : β}
    (hb : l'[i]? = some b) : ∃ a, l[i]? = some a ∧ R a b :=
  forall₂_getElem? (R := flip R) h.flip hb

/-- Every item of the left list has a partner. -/
theorem forall₂_mem_left (h : List.Forall₂ R l l') {a : α} (ha : a ∈ l) : ∃ b ∈ l', R a b := by
  obtain ⟨i, hi⟩ := List.getElem?_of_mem ha
  obtain ⟨b, hb, hab⟩ := forall₂_getElem? h hi
  exact ⟨b, List.mem_of_getElem? hb, hab⟩

/-- Every item of the right list has a partner. -/
theorem forall₂_mem_right (h : List.Forall₂ R l l') {b : β} (hb : b ∈ l') : ∃ a ∈ l, R a b :=
  forall₂_mem_left (R := flip R) h.flip hb

theorem forall₂_isEmpty (h : List.Forall₂ R l l') : l.isEmpty = l'.isEmpty := by
  cases h with
  | nil => rfl
  | cons _ _ => rfl

/-- Partners can be compared in another way that follows for items of the left list. -/
theorem forall₂_imp_mem (h : List.Forall₂ R l l') (himp : ∀ a ∈ l, ∀ b, R a b → S a b) :
    List.Forall₂ S l l' := by
  induction h with
  | nil => exact .nil
  | cons hr _ ih =>
      refine .cons (himp _ List.mem_cons_self _ hr) (ih ?_)
      exact fun a ha => himp a (List.mem_cons_of_mem _ ha)

/-- Two comparisons of the same lists are one comparison. -/
theorem forall₂_both (h : List.Forall₂ R l l') (h' : List.Forall₂ S l l') :
    List.Forall₂ (fun a b => R a b ∧ S a b) l l' := by
  induction h with
  | nil => exact .nil
  | cons hr _ ih =>
      obtain ⟨hs, hrest⟩ := List.forall₂_cons.mp h'
      exact .cons ⟨hr, hs⟩ (ih hrest)

/-- Comparisons are composed item by item. -/
theorem forall₂_trans {γ : Type} {S : β → γ → Prop} {T : α → γ → Prop} {l'' : List γ}
    (h : List.Forall₂ R l l') (h' : List.Forall₂ S l' l'')
    (htrans : ∀ a b c, R a b → S b c → T a c) : List.Forall₂ T l l'' := by
  induction h generalizing l'' with
  | nil =>
      cases h'
      exact .nil
  | cons hab _ ih =>
      obtain ⟨c, rest, hbc, hrest, rfl⟩ := List.forall₂_cons_left_iff.mp h'
      exact .cons (htrans _ _ _ hab hbc) (ih hrest)

variable {T : α → α → Prop}

/-- A list is related to itself with another item in one place, if that item is related. -/
theorem forall₂_set (hrefl : ∀ a, T a a) {i : Nat} {a b : α} (ha : l[i]? = some a)
    (hab : T a b) : List.Forall₂ T l (l.set i b) := by
  induction l generalizing i with
  | nil => exact nomatch ha
  | cons c l ih =>
      cases i with
      | zero =>
          injection ha with ha
          exact .cons (ha ▸ hab) (List.forall₂_same.mpr fun x _ => hrefl x)
      | succ i => exact .cons (hrefl c) (ih ha)

/-- An optional value is related to itself. -/
theorem optionRel_refl (hrefl : ∀ a, T a a) (x : Option α) : Option.Rel T x x := by
  cases x with
  | none => exact .none
  | some a => exact .some (hrefl a)

/-- The first values of two related pairs are related. -/
theorem optionRel_or {x x' : Option α} {y y' : Option β} (h : Option.Rel R x y)
    (h' : Option.Rel R x' y') : Option.Rel R (x.or x') (y.or y') := by
  cases h with
  | none => exact h'
  | some hab => exact .some hab

/-- Searches in two related lists find partners, if the tests agree on partners. -/
theorem optionRel_find? {test : α → Bool} {test' : β → Bool} (h : List.Forall₂ R l l')
    (htest : ∀ a ∈ l, ∀ b, R a b → test a = test' b) :
    Option.Rel R (l.find? test) (l'.find? test') := by
  induction h with
  | nil => exact .none
  | @cons a b l l' hab _ ih =>
      have hrest := ih fun a ha => htest a (List.mem_cons_of_mem _ ha)
      rw [List.find?_cons, List.find?_cons, ← htest a List.mem_cons_self b hab]
      cases test a with
      | true => exact .some hab
      | false => exact hrest

/-- Related optional values give the same, where partners do. -/
theorem optionRel_map_eq {γ : Type} {f : α → γ} {g : β → γ} {x : Option α} {y : Option β}
    (h : Option.Rel R x y) (hfg : ∀ a b, R a b → g b = f a) : y.map g = x.map f := by
  cases h with
  | none => rfl
  | some hab => exact congrArg some (hfg _ _ hab)

theorem optionRel_isSome {x : Option α} {y : Option β} (h : Option.Rel R x y) :
    y.isSome = x.isSome := by
  cases h with
  | none => rfl
  | some _ => rfl

end Partners

/-- A list without repetition whose items all occur in a list of the same length is that list in
    another order. -/
theorem perm_of_length_eq {α : Type} {l l' : List α} (hnodup : l.Nodup)
    (hlength : l.length = l'.length) (hsub : l ⊆ l') : l.Perm l' :=
  (List.subperm_of_subset hnodup hsub).perm_of_length_le (Nat.le_of_eq hlength.symm)

-- ── Chains ────────────────────────────────────────────────────────────────────

section Chains

variable {α β ε : Type}

/-- Two steps go through if the first does and then the second. -/
theorem bind_eq_ok {x : Except ε α} {next : α → Except ε β} {b : β} :
    x >>= next = .ok b ↔ ∃ a, x = .ok a ∧ next a = .ok b := by
  cases x with
  | error e => simp [bind, Except.bind]
  | ok a => simp [bind, Except.bind]

/-- Going through a list succeeds with the answers for its items, in order. -/
theorem mapM_eq_ok {f : α → Except ε β} {xs : List α} {ys : List β} :
    xs.mapM f = .ok ys ↔ List.Forall₂ (fun x y => f x = .ok y) xs ys := by
  induction xs generalizing ys with
  | nil => simp [pure, Except.pure, eq_comm]
  | cons x xs ih =>
      simp only [List.mapM_cons, bind_eq_ok, List.forall₂_cons_left_iff, ih]
      constructor
      · rintro ⟨y, hy, rest, hrest, h⟩
        injection h with h
        exact ⟨y, rest, hy, hrest, h.symm⟩
      · rintro ⟨y, rest, hy, hrest, rfl⟩
        exact ⟨y, hy, rest, hrest, rfl⟩

/-- Going through a list succeeds if it does for every item. -/
theorem exists_mapM {f : α → Except ε β} {xs : List α} (h : ∀ x ∈ xs, ∃ y, f x = .ok y) :
    ∃ ys, xs.mapM f = .ok ys := by
  simp only [mapM_eq_ok]
  induction xs with
  | nil => exact ⟨[], .nil⟩
  | cons x xs ih =>
      obtain ⟨y, hy⟩ := h x List.mem_cons_self
      obtain ⟨ys, hys⟩ := ih fun x' hx' => h x' (List.mem_cons_of_mem x hx')
      exact ⟨y :: ys, .cons hy hys⟩

/-- If every step of a fold puts one answer behind those before it, the fold puts the answers for
    all items there, in order. -/
theorem foldlM_collects {γ : Type} {R : α → γ → Prop} {step : β → α → Except ε β}
    {state : List γ → β}
    (hstep : ∀ cs a b', step (state cs) a = .ok b' → ∃ c, b' = state (cs ++ [c]) ∧ R a c)
    {xs : List α} {cs : List γ} {b b' : β} (hb : b = state cs) (h : xs.foldlM step b = .ok b') :
    ∃ new, b' = state (cs ++ new) ∧ List.Forall₂ R xs new := by
  induction xs generalizing b cs with
  | nil =>
      injection h with h
      exact ⟨[], by rw [List.append_nil, ← h, hb], .nil⟩
  | cons x xs ih =>
      rw [List.foldlM_cons, bind_eq_ok] at h
      obtain ⟨mid, hfirst, hrest⟩ := h
      obtain ⟨c, hmid, hc⟩ := hstep cs x mid (hb ▸ hfirst)
      obtain ⟨new, hlast, hnew⟩ := ih hmid hrest
      exact ⟨c :: new, by rw [hlast, List.append_assoc, List.singleton_append], .cons hc hnew⟩

/-- What every step keeps holds after a fold that goes through. -/
theorem foldlM_keeps {keeps : β → Prop} {step : β → α → Except ε β}
    (hstep : ∀ b a b', keeps b → step b a = .ok b' → keeps b') {xs : List α} {b b' : β}
    (hb : keeps b) (h : xs.foldlM step b = .ok b') : keeps b' := by
  induction xs generalizing b with
  | nil =>
      injection h with h
      exact h ▸ hb
  | cons x xs ih =>
      rw [List.foldlM_cons, bind_eq_ok] at h
      obtain ⟨mid, hfirst, hrest⟩ := h
      exact ih (hstep b x mid hb hfirst) hrest

end Chains

-- ── Chains side by side ───────────────────────────────────────────────────────

section SideBySide

variable {ε α β γ : Type} {g : β → γ}

/-- Chains that come to the same up to a function of their answers fail alike, or go through
    together with answers that the function does not tell apart. -/
theorem cases_of_map_eq {x y : Except ε β} (h : x.map g = y.map g) :
    (∃ e, x = .error e ∧ y = .error e) ∨ ∃ a b, x = .ok a ∧ y = .ok b ∧ g a = g b := by
  cases x with
  | error e =>
      cases y with
      | error e' =>
          injection h with h
          exact .inl ⟨e, rfl, congrArg _ h.symm⟩
      | ok b => exact nomatch h
  | ok a =>
      cases y with
      | error e' => exact nomatch h
      | ok b =>
          injection h with h
          exact .inr ⟨a, b, rfl, rfl, h⟩

/-- Two chains over one list agree in what is seen of their answers if they agree so item by item.
    They fail at the same item. -/
theorem map_mapM_congr {f f' : α → Except ε β} (h : ∀ a, (f a).map g = (f' a).map g)
    (as : List α) : (as.mapM f).map (List.map g) = (as.mapM f').map (List.map g) := by
  induction as with
  | nil => rfl
  | cons a as ih =>
      rw [List.mapM_cons, List.mapM_cons]
      rcases cases_of_map_eq (h a) with ⟨e, hf, hf'⟩ | ⟨b, b', hf, hf', hb⟩
      · rw [hf, hf']
        rfl
      · rw [hf, hf']
        rcases cases_of_map_eq ih with ⟨e, hl, hr⟩ | ⟨bs, bs', hl, hr, hbs⟩
        · rw [hl, hr]
          rfl
        · rw [hl, hr]
          exact congrArg Except.ok (congrArg₂ List.cons hb hbs)

end SideBySide

/-- Two chains that fail together, or go through together with related answers. Why they fail does
    not count. -/
inductive Agree {ε α β : Type} (R : α → β → Prop) : Except ε α → Except ε β → Prop where
  | ok {a : α} {b : β} : R a b → Agree R (.ok a) (.ok b)
  | error (e e' : ε) : Agree R (.error e) (.error e')

namespace Agree

variable {ε α α' β β' : Type} {R : α → α' → Prop} {S : β → β' → Prop}

/-- Two chains agree if one goes through when the other does and their answers are related. -/
theorem of_iff {x : Except ε α} {y : Except ε α'} (h : (∃ a, x = .ok a) ↔ ∃ b, y = .ok b)
    (hrel : ∀ a b, x = .ok a → y = .ok b → R a b) : Agree R x y := by
  cases x with
  | ok a =>
      obtain ⟨b, rfl⟩ := h.mp ⟨a, rfl⟩
      exact .ok (hrel a b rfl rfl)
  | error e =>
      cases y with
      | ok b => exact nomatch h.mpr ⟨b, rfl⟩
      | error e' => exact .error e e'

/-- A chain agrees with another if their first steps agree and related answers go on to chains that
    agree. -/
theorem bind {x : Except ε α} {y : Except ε α'} {next : α → Except ε β} {next' : α' → Except ε β'}
    (h : Agree R x y) (hnext : ∀ a b, R a b → Agree S (next a) (next' b)) :
    Agree S (x >>= next) (y >>= next') := by
  cases h with
  | ok hab => exact hnext _ _ hab
  | error e e' => exact .error e e'

/-- Chains that agree on an answer go on from the same answer. -/
theorem bind_eq {x y : Except ε α} {next : α → Except ε β} {next' : α → Except ε β'}
    (h : Agree Eq x y) (hnext : ∀ a, Agree S (next a) (next' a)) :
    Agree S (x >>= next) (y >>= next') :=
  h.bind fun a _ hab => hab ▸ hnext a

/-- Going through two related lists agrees if it agrees item by item. -/
theorem mapM {f : α → Except ε β} {g : α' → Except ε β'} {xs : List α} {ys : List α'}
    (h : List.Forall₂ R xs ys) (hstep : ∀ a b, R a b → Agree S (f a) (g b)) :
    Agree (List.Forall₂ S) (xs.mapM f) (ys.mapM g) := by
  induction h with
  | nil => exact .ok .nil
  | cons hab _ ih =>
      rw [List.mapM_cons, List.mapM_cons]
      refine (hstep _ _ hab).bind fun c d hcd => ih.bind fun cs ds hrest => ?_
      exact .ok (.cons hcd hrest)

/-- The same for a state that is passed on, which has to be one and the same state. -/
theorem foldlM {f : β → α → Except ε β} {g : β → α' → Except ε β} {xs : List α} {ys : List α'}
    (h : List.Forall₂ R xs ys) (hstep : ∀ c a b, R a b → Agree Eq (f c a) (g c b)) (c : β) :
    Agree Eq (xs.foldlM f c) (ys.foldlM g c) := by
  induction h generalizing c with
  | nil => exact .ok rfl
  | cons hab _ ih =>
      rw [List.foldlM_cons, List.foldlM_cons]
      exact (hstep c _ _ hab).bind_eq ih

/-- Chains that agree give the same answer, up to what the failure says. -/
theorem toOption_eq {x y : Except ε α} (h : Agree Eq x y) : x.toOption = y.toOption := by
  cases h with
  | ok hab => rw [hab]
  | error _ _ => rfl

end Agree

end SchemaDdl
