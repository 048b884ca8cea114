import Mathlib.Data.List.Induction
import SchemaDdl.Proofs.Reachability

/-!
# What the finalized flag says

The flag is set where a finalization goes through, and whatever changes an entity drops it. What
does nothing to the entities leaves it: an assignment of attributes, and a call that fails before it
has changed anything. So the flag is about the state and not about the last call. A platform that
refuses a database another platform has finalized may leave it finalized, but only if it leaves it
as it is in every respect.

* **`Operation.Spares`**, **`Database.Spared`**: operations that do nothing to the entities of a
  database.
* **`Database.finalized_run_iff`**: when the flag is set after one operation.
* **`Database.finalized_iff`**: when it is set after a history.
-/

namespace SchemaDdl

/-- An operation does nothing to a database, attributes apart. A finalization does so only if it
    fails: one that goes through is what the flag is set by. -/
def Operation.Spares (db : Database) : Operation → Prop
  | .assign _ => True
  | .finalize p => ∃ f, db.finalize p = (db, .error f)
  | op => (db.run op).1 = db

namespace Database

variable {db d : Database} {p : Platform} {f : Failure}

/-- All operations of a list, one after the other, spare a database. -/
def Spared (db : Database) : List Operation → Prop
  | [] => True
  | op :: rest => op.Spares db ∧ (db.run op).1.Spared rest

-- ── One operation ─────────────────────────────────────────────────────────────

/-- An operation that spares a database leaves the flag alone. -/
theorem finalized_run_of_spares {op : Operation} (h : op.Spares db) :
    (db.run op).1.finalized = db.finalized := by
  cases op with
  | assign attributes => exact (foldl_assign attributes db).2
  | finalize p =>
      obtain ⟨f, hfail⟩ := h
      rw [run, hfail]
      rfl
  | addEntity draft => rw [show (db.run (.addEntity draft)).1 = db from h]
  | change id c => rw [show (db.run (.change id c)).1 = db from h]
  | normalize p => rw [show (db.run (.normalize p)).1 = db from h]
  | normalizeEntity p id part => rw [show (db.run (.normalizeEntity p id part)).1 = db from h]

/-- Registering an entity fails and does nothing, or drops the flag. -/
theorem eq_of_finalized_register {draft : EntityDraft}
    (hflag : (db.register draft).1.finalized = true) : (db.register draft).1 = db := by
  rcases register_cases db draft with ⟨f, heq⟩ | ⟨e, d, id, -, hadd, heq⟩
  · rw [heq]
  · rw [heq, addEntity_eq_ok hadd] at hflag
    exact nomatch hflag

/-- A finalization that fails leaves a finalized database if and only if it met one and left it as
    it was. -/
theorem finalized_of_finalize_failed (hs : db.Sound) (hfail : db.finalize p = (d, .error f)) :
    d.finalized = true ↔ db.finalized = true ∧ d = db := by
  constructor
  · intro hflag
    have hsame : d = db := by
      rcases finalize_cases hs.placed p with ⟨f, heq⟩ | ⟨-, mid, hgrows, ⟨f, -, heq⟩ | ⟨-, heq⟩⟩
      · rw [heq] at hfail
        injection hfail with hd
        exact hd.symm
      · -- the flag holds only if nothing was done after the binding, which then did nothing either
        rw [heq] at hfail
        injection hfail with hd
        subst hd
        have hmid := hgrows.flag hflag
        rw [hmid] at hflag ⊢
        exact (hs.resolved hflag).allBound_eq_self hs.placed
      · rw [heq] at hfail
        cases hfail
    exact ⟨hsame ▸ hflag, hsame⟩
  · rintro ⟨hflag, rfl⟩
    exact hflag

/-- A finalization that goes through sets the flag. -/
theorem finalized_of_finalize (hp : db.Placed) (hok : db.finalize p = (d, .ok ())) :
    d.finalized = true := by
  obtain ⟨-, mid, -, -, rfl⟩ := finalize_eq_ok hp hok
  rfl

/-- After an operation the flag is set if and only if the operation is a finalization that went
    through, or the flag was set before and the operation spared the database. -/
theorem finalized_run_iff (h : db.Reachable) (op : Operation) :
    (db.run op).1.finalized = true ↔
      (∃ p d, op = .finalize p ∧ db.finalize p = (d, .ok ())) ∨
      db.finalized = true ∧ op.Spares db := by
  constructor
  · -- what leaves the database as it is has found the flag set
    have hidle : (db.run op).1.finalized = true → (db.run op).1 = db → db.finalized = true :=
      fun hflag hsame => hsame ▸ hflag
    intro hflag
    cases op with
    | assign attributes => exact Or.inr ⟨(foldl_assign attributes db).2 ▸ hflag, trivial⟩
    | addEntity draft =>
        have hsame := eq_of_finalized_register hflag
        exact Or.inr ⟨hidle hflag hsame, hsame⟩
    | change id c =>
        rw [run, answered, finalized_updateEntity] at hflag
        exact absurd hflag Bool.false_ne_true
    | finalize p =>
        cases hrun : db.finalize p with
        | mk d reply =>
            cases reply with
            | ok _ => exact Or.inl ⟨p, d, rfl, hrun⟩
            | error f =>
                rw [run, hrun] at hflag
                obtain ⟨hbefore, rfl⟩ := (finalized_of_finalize_failed h.sound hrun).mp hflag
                exact Or.inr ⟨hbefore, f, hrun⟩
    | normalize p =>
        have hsame := (p.normalize_grows db).flag hflag
        exact Or.inr ⟨hidle hflag hsame, hsame⟩
    | normalizeEntity p id part =>
        have hsame := (normalizePart_grows p id part db).flag hflag
        exact Or.inr ⟨hidle hflag hsame, hsame⟩
  · rintro (⟨p, d, rfl, hok⟩ | ⟨hflag, hspares⟩)
    · rw [run, hok]
      exact finalized_of_finalize h.sound.placed hok
    · rw [finalized_run_of_spares hspares]
      exact hflag

-- ── Histories ─────────────────────────────────────────────────────────────────

theorem runAll_append (db : Database) (history rest : List Operation) :
    db.runAll (history ++ rest) = (db.runAll history).runAll rest := List.foldl_append

theorem spared_append (history rest : List Operation) :
    db.Spared (history ++ rest) ↔ db.Spared history ∧ (db.runAll history).Spared rest := by
  induction history generalizing db with
  | nil => exact (iff_of_eq (true_and _)).symm
  | cons op history ih => exact (and_congr_right fun _ => ih).trans and_assoc.symm

/-- A history that spares the flag leaves it as it was. -/
theorem finalized_of_spared {history : List Operation} (h : db.Spared history) :
    (db.runAll history).finalized = db.finalized := by
  induction history generalizing db with
  | nil => rfl
  | cons op history ih => exact (ih h.2).trans (finalized_run_of_spares h.1)

/-- A finalization that goes through in the middle of a history. -/
theorem runAll_finalize {before after : List Operation}
    (hok : (db.runAll before).finalize p = (d, .ok ())) :
    db.runAll (before ++ .finalize p :: after) = d.runAll after := by
  have hrun : ((db.runAll before).run (.finalize p)).1 = d := by
    rw [run, hok]
    rfl
  rw [runAll_append, ← hrun]
  rfl

/-- The finalized flag tells the truth about the state. After any history it is set if and only if
    some finalization went through and whatever was done since then, failed finalizations included,
    spared the database. Right after a finalization that fails it is set if and only if it was set
    before and the failure left the database exactly as it was. -/
theorem finalized_iff (name : String) (history : List Operation) :
    (((named name).runAll history).finalized = true ↔
      ∃ before p after d, history = before ++ .finalize p :: after ∧
        ((named name).runAll before).finalize p = (d, .ok ()) ∧ d.Spared after) ∧
    ∀ p d f, ((named name).runAll history).finalize p = (d, .error f) →
      (d.finalized = true ↔ ((named name).runAll history).finalized = true ∧
        d = (named name).runAll history) := by
  refine ⟨⟨?_, ?_⟩, fun p d f => finalized_of_finalize_failed ?_⟩
  · -- the last operation set the flag, or it spared a database that was finalized before it
    induction history using List.reverseRecOn with
    | nil => exact fun hflag => nomatch hflag
    | append_singleton history op ih =>
        intro hflag
        rw [runAll_append] at hflag
        rcases (finalized_run_iff ⟨name, history, rfl⟩ op).mp hflag with
          ⟨p, d, rfl, hok⟩ | ⟨hbefore, hspares⟩
        · exact ⟨history, p, [], d, rfl, hok, trivial⟩
        · obtain ⟨before, p, after, d, rfl, hok, hspared⟩ := ih hbefore
          refine ⟨before, p, after ++ [op], d, by simp, hok, ?_⟩
          rw [runAll_finalize hok] at hspares
          exact (spared_append after [op]).mpr ⟨hspared, hspares, trivial⟩
  · rintro ⟨before, p, after, d, rfl, hok, hspared⟩
    rw [runAll_finalize hok, finalized_of_spared hspared]
    have hbefore : ((named name).runAll before).Reachable := ⟨name, before, rfl⟩
    exact finalized_of_finalize hbefore.sound.placed hok
  · have hreachable : ((named name).runAll history).Reachable := ⟨name, history, rfl⟩
    exact hreachable.sound

-- ── A refusal after a finalization ────────────────────────────────────────────

/-- A database with one entity that SQLite refuses, finalized for another platform. -/
def visitsHistory : List Operation := [
  .addEntity ⟨"Visit", [
    .addField { Field.plain "day" .date with primaryKey := true },
    .addField { Field.plain "count" .integer with autoIncrement := true }]⟩,
  .finalize ⟨.generic, false⟩]

/-- SQLite refuses the visits and does nothing to them. They stay finalized through that and through
    a new name. -/
theorem finalized_iff_visits :
    ((named "visits").runAll (visitsHistory ++
      [.finalize ⟨.sqlite, false⟩, .assign [.name "calls"]])).finalized = true ∧
    ∃ d, ((named "visits").runAll visitsHistory).finalize ⟨.sqlite, false⟩ =
      (d, .error (.error (Refusal.autoIncrementOutsideKey "Visit" "count").error)) ∧
      d.finalized = true := by
  have hok : ((named "visits").runAll (visitsHistory.take 1)).finalize ⟨.generic, false⟩ =
      ((named "visits").runAll visitsHistory, .ok ()) := Prod.ext rfl (by decide +kernel)
  have hrefused : ((named "visits").runAll visitsHistory).finalize ⟨.sqlite, false⟩ =
      ((named "visits").runAll visitsHistory,
        .error (.error (Refusal.autoIncrementOutsideKey "Visit" "count").error)) := by
    decide +kernel
  have hspared : ((named "visits").runAll visitsHistory).Spared
      [.finalize ⟨.sqlite, false⟩, .assign [.name "calls"]] :=
    ⟨⟨_, hrefused⟩, trivial, trivial⟩
  have hflag : ((named "visits").runAll visitsHistory).finalized = true :=
    (finalized_iff "visits" visitsHistory).1.mpr
      ⟨visitsHistory.take 1, ⟨.generic, false⟩, [], _, rfl, hok, trivial⟩
  exact ⟨(finalized_iff "visits" _).1.mpr
      ⟨visitsHistory.take 1, ⟨.generic, false⟩, _, _, rfl, hok, hspared⟩,
    _, hrefused, ((finalized_iff "visits" visitsHistory).2 _ _ _ hrefused).mpr ⟨hflag, rfl⟩⟩

/-- The flag does not tell what the last finalization answered. -/
theorem finalized_after_refusal :
    ¬ ∀ (name : String) (before after : List Operation) (p : Platform),
      (∀ op ∈ after, ∀ p, op ≠ .finalize p) →
      ((named name).runAll (before ++ .finalize p :: after)).finalized = true →
      (((named name).runAll before).finalize p).2 = .ok () := by
  intro h
  have hflag : ((named "visits").runAll
      (visitsHistory ++ [.finalize ⟨.sqlite, false⟩])).finalized = true := by decide +kernel
  have hreply : (((named "visits").runAll visitsHistory).finalize ⟨.sqlite, false⟩).2 ≠ .ok () := by
    decide +kernel
  exact hreply (h "visits" visitsHistory [] ⟨.sqlite, false⟩ (fun _ hop => nomatch hop) hflag)

end Database

end SchemaDdl
