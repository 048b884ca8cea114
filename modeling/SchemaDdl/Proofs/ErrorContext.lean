import SchemaDdl.Error

/-!
# What an error keeps

Context is put in front of an error as one note. If the context is a fresh note nobody else holds,
it is that note itself. Otherwise it is a note made of the context's text, which reads the same but
has lost its kind. Behind it all notes of the error stay as they are.

* **`Error.asNote`**: the note that an error becomes as context.
* **`Error.text_context`**: the text of the context, a colon, and the text of the error.
* **`Error.findSome?_context`**: what a search among notes of one kind finds.
* **`Account.exists_account`**: errors are what comes of notes by putting context in front, in
  whatever nesting. What is said of all errors is said of no others.
* **`Account.text_error`**: however an error has come about, its text lists the texts of all notes
  that have gone into it, latest context first.

The main result says what putting context in front of an error keeps.
-/

namespace SchemaDdl

namespace Error

variable {e c : Error} {shared : Bool}

-- ── Context is one note ───────────────────────────────────────────────────────

/-- The note that an error becomes as context: its only note, or its text. -/
def asNote (c : Error) (shared : Bool) : Note :=
  if shared || !c.causes.isEmpty then .adhoc c.text else c.top

/-- Context is one note in front of all others. -/
theorem notes_context (e c : Error) (shared : Bool) :
    (e.context c shared).notes = c.asNote shared :: e.notes := by
  rw [context, asNote]
  split <;> rfl

/-- A fresh error is its own note. -/
theorem asNote_of_fresh (hc : c.causes = []) : c.asNote false = c.top := by
  rw [asNote, hc]
  rfl

/-- An error that is shared or has a cause is flattened. -/
theorem asNote_of_not_fresh (h : ¬ (shared = false ∧ c.causes = [])) :
    c.asNote shared = .adhoc c.text := by
  rw [asNote, if_pos]
  cases shared with
  | true => rfl
  | false => simpa using h

/-- As context an error reads as it did. -/
theorem text_asNote (c : Error) (shared : Bool) : (c.asNote shared).text = c.text := by
  by_cases hfresh : shared = false ∧ c.causes = []
  · obtain ⟨rfl, hc⟩ := hfresh
    rw [asNote_of_fresh hc, text, notes, hc]
    rfl
  · rw [asNote_of_not_fresh hfresh]
    rfl

/-- Context stands in front of the text. -/
theorem text_context (e c : Error) (shared : Bool) :
    (e.context c shared).text = Text.concat [c.text, ": ", e.text] := by
  have hfront : (e.context c shared).text = c.text ++ ": " ++ e.text := by
    rw [text, notes_context, List.map_cons, text_asNote]
    rfl
  rw [hfront]
  simp [Text.concat, String.append_assoc]

-- ── Kinds ─────────────────────────────────────────────────────────────────────

/-- What is searched among the notes is found in the context if the context is a fresh note that has
    it, and otherwise where it was. Flattened context is of no kind. -/
theorem findSome?_context {α : Type} {kind : Note → Option α}
    (hadhoc : ∀ message, kind (.adhoc message) = none) (e c : Error) (shared : Bool) :
    (e.context c shared).notes.findSome? kind =
      if shared = false ∧ c.causes = [] ∧ (c.notes.findSome? kind).isSome = true then
        c.notes.findSome? kind
      else e.notes.findSome? kind := by
  rw [notes_context, List.findSome?_cons]
  by_cases hfresh : shared = false ∧ c.causes = []
  · obtain ⟨rfl, hc⟩ := hfresh
    have hnotes : c.notes.findSome? kind = kind c.top := by
      rw [notes, hc, List.findSome?_singleton]
    rw [asNote_of_fresh hc, hnotes]
    cases kind c.top <;> simp [hc]
  · rw [asNote_of_not_fresh hfresh, hadhoc, if_neg]
    exact fun h => hfresh ⟨h.1, h.2.1⟩

/-- The notes of an error are still there behind its context. -/
theorem notes_sublist_context (e c : Error) (shared : Bool) :
    e.notes.Sublist (e.context c shared).notes := by
  rw [notes_context]
  exact List.sublist_cons_self _ _

/-- Putting context in front of an error, in whatever way both came about, loses nothing. The text
    of the context stands in front of the error's text. Of whatever kinds the error was, it still
    is. The first build failure and the first document path are those of the error, unless the
    context is a single note of that kind that is not in use elsewhere. -/
theorem context_keeps (e c : Error) (shared : Bool) :
    (e.context c shared).text = Text.concat [c.text, ": ", e.text] ∧
    (∀ kind ∈ [isBuild, isIngestion, isInvalidSchema, isUnsupportedFeature],
      kind e = true → kind (e.context c shared) = true) ∧
    (e.context c shared).build? =
      (if shared = false ∧ c.causes = [] ∧ c.isBuild = true then c.build? else e.build?) ∧
    (e.context c shared).path? =
      (if shared = false ∧ c.causes = [] ∧ c.isIngestion = true then c.path? else e.path?) := by
  have hsub : e.notes.Sublist (e.context c shared).notes := notes_sublist_context e c shared
  have hsearched {α : Type} (kind : Note → Option α) :
      (e.notes.findSome? kind).isSome = true →
        ((e.context c shared).notes.findSome? kind).isSome = true :=
    hsub.findSome?_isSome
  have hany (kind : Note → Bool) :
      e.notes.any kind = true → (e.context c shared).notes.any kind = true := by
    rw [List.any_eq_true, List.any_eq_true]
    exact fun ⟨n, hn, hkind⟩ => ⟨n, hsub.subset hn, hkind⟩
  refine ⟨text_context e c shared, ?_, findSome?_context (fun _ => rfl) e c shared,
    findSome?_context (fun _ => rfl) e c shared⟩
  simp only [List.forall_mem_cons, List.not_mem_nil, false_implies, implies_true, and_true]
  exact ⟨hsearched _, hsearched _, hany _, hany _⟩

/-- A target that is missing. -/
def missingPublisher : Error := ofNote (.build ⟨.missingTarget, "fk", "Book", "Publisher"⟩)

/-- A note about a whole document. -/
def malformed : Error := ingestion .document "malformed"

/-- A note about the document in front of a missing target. Its path is gone if the note is in use
    elsewhere, and also if it has a cause itself. -/
theorem context_keeps_missingPublisher :
    missingPublisher.isBuild = true ∧
    (missingPublisher.context malformed true).isBuild = true ∧
    (missingPublisher.context malformed true).text =
      Text.concat [malformed.text, ": ", missingPublisher.text] ∧
    (missingPublisher.context malformed true).path? = none ∧
    (missingPublisher.context malformed false).path? = some .document ∧
    (missingPublisher.context ((adhoc "parsing").context malformed false) false).path? = none := by
  have hbuild : missingPublisher.isBuild = true := rfl
  obtain ⟨htext, hkinds, -, hshared⟩ := context_keeps missingPublisher malformed true
  obtain ⟨-, -, -, hfresh⟩ := context_keeps missingPublisher malformed false
  obtain ⟨-, -, -, hchained⟩ :=
    context_keeps missingPublisher ((adhoc "parsing").context malformed false) false
  exact ⟨hbuild, hkinds isBuild List.mem_cons_self hbuild, htext, hshared, hfresh, hchained⟩

end Error

-- ── Accounts ──────────────────────────────────────────────────────────────────

/-- How an error comes about: as a note, or as an error in front of which another is put as
    context. -/
inductive Account where
  | note (n : Note)
  | context (explained front : Account) (shared : Bool)

namespace Account

/-- The error that comes about. -/
def error : Account → Error
  | note n => .ofNote n
  | context explained front shared => explained.error.context front.error shared

/-- All notes that go into an error, latest context first. -/
def notes : Account → List Note
  | note n => [n]
  | context explained front _ => front.notes ++ explained.notes

/-- The note that all others are context of. -/
def root : Account → Note
  | note n => n
  | context explained _ _ => explained.root

/-- At least one note goes into an error. -/
theorem notes_ne_nil (a : Account) : a.notes ≠ [] := by
  induction a with
  | note n => exact List.cons_ne_nil n []
  | context explained front shared ihe ihf => exact List.append_ne_nil_of_left_ne_nil ihf _

/-- Every error comes about in some way: its notes are put in front one by one. -/
theorem exists_account (e : Error) : ∃ a : Account, a.error = e := by
  obtain ⟨top, causes⟩ := e
  induction causes generalizing top with
  | nil => exact ⟨note top, rfl⟩
  | cons n ns ih =>
      obtain ⟨a, ha⟩ := ih n
      exact ⟨context a (note top) false, by rw [error, ha]; rfl⟩

/-- The text of an error lists the texts of all notes that have gone into it, whatever of its
    context was flattened on the way. -/
theorem text_error (a : Account) : a.error.text = Text.join ": " (a.notes.map Note.text) := by
  induction a with
  | note n => rfl
  | context explained front shared ihe ihf =>
      have hne (b : Account) : b.notes.map Note.text ≠ [] :=
        fun h => b.notes_ne_nil (List.map_eq_nil_iff.mp h)
      rw [error, Error.text_context, ihe, ihf, notes, List.map_append,
        Text.join_append_of_ne_nil ": " (hne front) (hne explained)]
      simp [Text.concat, String.append_assoc]

/-- The root cause is the last note, with its kind. -/
theorem getLast?_notes_error (a : Account) : a.error.notes.getLast? = some a.root := by
  induction a with
  | note n => rfl
  | context explained front shared ihe _ =>
      rw [error, Error.notes_context, List.getLast?_cons, ihe]
      rfl

end Account

end SchemaDdl
