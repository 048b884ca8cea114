import SchemaDdl.Proofs.Rendering

/-!
# The order of declaration

Entities may refer to entities that are declared later, so it should not matter in which order they
are registered. It does not: another order gives the same entities other numbers, and what is left
after finalizing is the same under those numbers.

* **`Database.registerAll`**: entities registered one after the other.
* **`exists_renumbering`**, **`Database.renumbered_of_perm`**: the numbers that another order gives.
* **`Database.SameButOrder`**: what two databases have in common that differ in the order of their
  entities.
-/

namespace SchemaDdl

-- ── Numbers for another order ─────────────────────────────────────────────────

/-- Another order of a list, as a renumbering of its places. -/
theorem exists_renumbering {α : Type} {l l' : List α} (h : l.Perm l') :
    ∃ σ : Equiv.Perm ℕ, ∀ i, l'[σ i]? = l[i]? := by
  -- the first place stays where it is under a common head
  induction h with
  | nil => exact ⟨Equiv.refl ℕ, fun _ => rfl⟩
  | cons a _ ih =>
      obtain ⟨σ, hσ⟩ := ih
      refine ⟨{
        toFun := fun i => Nat.casesOn i 0 fun i => σ i + 1
        invFun := fun i => Nat.casesOn i 0 fun i => σ.symm i + 1
        left_inv := ?_
        right_inv := ?_ }, ?_⟩
      · intro i
        cases i with
        | zero => rfl
        | succ i => exact congrArg (· + 1) (σ.symm_apply_apply i)
      · intro i
        cases i with
        | zero => rfl
        | succ i => exact congrArg (· + 1) (σ.apply_symm_apply i)
      · intro i
        cases i with
        | zero => rfl
        | succ i => exact hσ i
  | swap a b l =>
      refine ⟨Equiv.swap 0 1, fun i => ?_⟩
      match i with
      | 0 => rw [Equiv.swap_apply_left]; rfl
      | 1 => rw [Equiv.swap_apply_right]; rfl
      | i + 2 =>
          rw [Equiv.swap_apply_of_ne_of_ne (by omega) (by omega)]
          rfl
  | trans _ _ ih ih' =>
      obtain ⟨σ, hσ⟩ := ih
      obtain ⟨τ, hτ⟩ := ih'
      exact ⟨σ.trans τ, fun i => (hτ (σ i)).trans (hσ i)⟩

namespace Database

variable {db d d' : Database} {es es' : List Entity} {p : Platform}

-- ── Registration ──────────────────────────────────────────────────────────────

/-- Register entities one after the other, up to the first that is refused. -/
def registerAll (db : Database) (es : List Entity) : Except Violation Database :=
  es.foldlM (fun db e => (db.addEntity e).map Prod.fst) db

/-- Entities that are registered in their order, and then finalized, leave a database. -/
def Yields (db : Database) (es : List Entity) (p : Platform) (d : Database) : Prop :=
  ∃ start, db.registerAll es = .ok start ∧ start.finalize p = (d, .ok ())

/-- What registering a list of entities leaves: the entities in their places, behind those that were
    there. -/
theorem registerAll_eq_ok (h : db.registerAll es = .ok d) :
    ∃ flag, d = { db with
      entities := db.entities ++
        es.mapIdx fun i e => placed (db.inherited e) (db.entities.length + i)
      finalized := flag } := by
  induction es generalizing db with
  | nil =>
      injection h with h
      refine ⟨db.finalized, ?_⟩
      rw [List.mapIdx_nil, List.append_nil, h]
  | cons e es ih =>
      rw [registerAll, List.foldlM_cons, bind_eq_ok] at h
      obtain ⟨mid, hfirst, hrest⟩ := h
      obtain ⟨-, rfl⟩ := addEntity_map_eq_ok.mp hfirst
      obtain ⟨flag, rfl⟩ := ih hrest
      refine ⟨flag, ?_⟩
      simp only [List.mapIdx_cons, List.append_assoc, List.singleton_append, List.length_append,
        List.length_singleton, Nat.add_zero, Nat.add_assoc, Nat.add_comm 1]
      rfl

/-- Registering a list of entities goes through if all have names and no qualified name occurs
    twice. -/
theorem exists_registerAll_iff :
    (∃ d, db.registerAll es = .ok d) ↔ (∀ e ∈ es, e.name ≠ "") ∧
      (es.map fun e => (db.inherited e).fullName).Nodup ∧
      ∀ e ∈ es, ∀ e' ∈ db.entities, e'.fullName ≠ (db.inherited e).fullName := by
  induction es generalizing db with
  | nil =>
      refine iff_of_true ⟨db, rfl⟩ ⟨?_, List.nodup_nil, ?_⟩
      · exact fun _ he => nomatch he
      · exact fun _ he => nomatch he
  | cons e es ih =>
      have hsplit : (∃ d, db.registerAll (e :: es) = .ok d) ↔
          (e.name ≠ "" ∧ ∀ e' ∈ db.entities, e'.fullName ≠ (db.inherited e).fullName) ∧
          ∃ d, { db with
            entities := db.entities ++ [placed (db.inherited e) db.entities.length]
            finalized := false }.registerAll es = .ok d := by
        simp only [registerAll, List.foldlM_cons, bind_eq_ok, addEntity_map_eq_ok]
        constructor
        · rintro ⟨d, mid, ⟨hfree, rfl⟩, hrest⟩
          exact ⟨hfree, d, hrest⟩
        · rintro ⟨hfree, d, hrest⟩
          exact ⟨d, _, ⟨hfree, rfl⟩, hrest⟩
      rw [hsplit, ih, List.map_cons, List.nodup_cons, List.forall_mem_cons, List.forall_mem_cons]
      simp only [List.forall_mem_append, List.forall_mem_singleton]
      constructor
      · rintro ⟨⟨hname, hfree⟩, hnames, hnodup, hothers⟩
        refine ⟨⟨hname, hnames⟩, ⟨?_, hnodup⟩, hfree, fun e' he' => (hothers e' he').1⟩
        intro hmem
        obtain ⟨e', he', heq⟩ := List.mem_map.mp hmem
        exact (hothers e' he').2 heq.symm
      · rintro ⟨⟨hname, hnames⟩, ⟨hnew, hnodup⟩, hfree, hothers⟩
        refine ⟨⟨hname, hfree⟩, hnames, hnodup, fun e' he' => ⟨hothers e' he', fun heq => ?_⟩⟩
        exact hnew (List.mem_map.mpr ⟨e', he', heq.symm⟩)

/-- Whether a list of entities can be registered does not depend on their order. -/
theorem exists_registerAll_of_perm (hperm : es.Perm es') (h : ∃ d, db.registerAll es = .ok d) :
    ∃ d', db.registerAll es' = .ok d' := by
  obtain ⟨hnames, hnodup, hothers⟩ := exists_registerAll_iff.mp h
  refine exists_registerAll_iff.mpr ⟨fun e he => hnames e (hperm.mem_iff.mpr he), ?_,
    fun e he => hothers e (hperm.mem_iff.mpr he)⟩
  exact (hperm.map _).nodup_iff.mp hnodup

/-- Registering entities one after the other keeps a database sound. -/
theorem Sound.registerAll (hs : db.Sound) (h : db.registerAll es = .ok d) : d.Sound := by
  have hkeeps : ∀ (db : Database) (e : Entity) (mid : Database), db.Sound →
      (db.addEntity e).map Prod.fst = .ok mid → mid.Sound := by
    intro db e mid hdb hstep
    cases hadd : db.addEntity e with
    | error v =>
        rw [hadd] at hstep
        exact nomatch hstep
    | ok added =>
        rw [hadd] at hstep
        injection hstep with hstep
        rw [← hstep]
        exact hdb.addEntity hadd
  exact foldlM_keeps hkeeps hs h

/-- A database without entities is sound. -/
theorem sound_of_empty (hempty : db.entities = []) : db.Sound where
  placed := (placed_named "").of_entities_eq hempty
  resolved := by
    intro _ r hr
    rw [relations, hempty] at hr
    cases hr
  named := by
    intro _ e he
    rw [hempty] at he
    cases he

-- ── Registration in another order ─────────────────────────────────────────────

/-- An entity put at another place, as long as none of its relations is bound. -/
theorem renumber_placed (σ : Equiv.Perm ℕ) {e : Entity}
    (hscratch : ∀ r ∈ e.relations, r.bound = none) (i : Nat) :
    (placed e i).renumber σ = placed e (σ i) := by
  have hrelations : (numberFrom (some i) 0 e.relations).map (Relation.renumber σ) =
      numberFrom (some (σ i)) 0 e.relations := by
    refine List.ext_getElem? fun j => ?_
    rw [List.getElem?_map, getElem?_numberFrom, getElem?_numberFrom]
    cases hr : e.relations[j]? with
    | none => rfl
    | some r =>
        have hbound : r.bound = none := hscratch r (List.mem_of_getElem? hr)
        simp [Relation.renumber, hbound]
  show { e with
    id := some (σ i)
    relations := (numberFrom (some i) 0 e.relations).map (Relation.renumber σ) } = _
  rw [hrelations]
  rfl

/-- Registered in another order, entities that are built from scratch get other numbers, and that
    is all. -/
theorem renumbered_of_perm (hempty : db.entities = []) (hperm : es.Perm es')
    (hnames : (es.map (·.name)).Nodup) (hscratch : ∀ e ∈ es, ∀ r ∈ e.relations, r.bound = none)
    (h : db.registerAll es = .ok d) (h' : db.registerAll es' = .ok d') :
    ∃ σ, Renumbered σ d d' := by
  obtain ⟨σ, hσ⟩ := exists_renumbering hperm
  obtain ⟨-, hfullNames, -⟩ := exists_registerAll_iff.mp ⟨d, h⟩
  obtain ⟨flag, hd⟩ := registerAll_eq_ok h
  obtain ⟨flag', hd'⟩ := registerAll_eq_ok h'
  rw [hempty] at hd hd'
  have hplace : ∀ i, d.entities[i]? = (es[i]?).map fun e => placed (db.inherited e) i := by
    intro i
    rw [hd]
    simp
  have hplace' : ∀ i, d'.entities[i]? = (es'[i]?).map fun e => placed (db.inherited e) i := by
    intro i
    rw [hd']
    simp
  -- names do not depend on the place
  have hkeys : ∀ key : Entity → String, (∀ e i, key (placed e i) = key e) →
      d.entities.map key = es.map fun e => key (db.inherited e) := by
    intro key hkey
    refine List.ext_getElem? fun i => ?_
    rw [List.getElem?_map, List.getElem?_map, hplace, Option.map_map]
    congr 1
    funext e
    exact hkey _ i
  refine ⟨σ, ?_, fun i => ?_, ?_, ?_⟩
  · rw [hd, hd']
  · rw [hplace', hσ, hplace, Option.map_map]
    cases he : es[i]? with
    | none => rfl
    | some e =>
        have hunbound : ∀ r ∈ (db.inherited e).relations, r.bound = none :=
          hscratch e (List.mem_of_getElem? he)
        exact congrArg some (renumber_placed σ hunbound i).symm
  · rw [hkeys (·.name) fun _ _ => rfl]
    exact hnames
  · rw [hkeys (·.fullName) fun _ _ => rfl]
    exact hfullNames

-- ── The same but for the order ────────────────────────────────────────────────

end Database

/-- A relation and one of another database have the same name, targets of the same name, and the
    same multiplicity. -/
structure Relation.Matches (d d' : Database) (r r' : Relation) : Prop where
  name : ∃ name, r.storedName? = some name ∧ r'.storedName? = some name
  target : ∃ t t', r.targetEntity? d = some t ∧ r'.targetEntity? d' = some t' ∧ t'.name = t.name
  multiplicity : r'.multiplicity d' = r.multiplicity d

/-- An entity and one of another database have the same id method, the same indices and matching
    relations, in the same order. -/
structure Entity.Matches (d d' : Database) (e e' : Entity) : Prop where
  idMethod : e'.idMethod = e.idMethod
  indices : e'.indices = e.indices
  relations : List.Forall₂ (Relation.Matches d d') e.relations e'.relations

/-- Two databases are the same but for the order of their entities. -/
structure Database.SameButOrder (d d' : Database) : Prop where
  names : (d'.entities.map (·.name)).Perm (d.entities.map (·.name))
  entities : ∀ e ∈ d.entities, ∀ e' ∈ d'.entities, e'.name = e.name → e.Matches d d' e'
  statements : ∀ (q : Platform) (s : Settings), (∃ stmts', d'.statements q s = .ok stmts') ↔
    ∃ stmts, d.statements q s = .ok stmts
  /-- The statements of each table have the same texts in the same order. -/
  tables : ∀ (q : Platform) (s : Settings) (stmts stmts' : List Statement),
    d.statements q s = .ok stmts → d'.statements q s = .ok stmts' →
    ∀ e ∈ d.entities, ∀ e' ∈ d'.entities, e'.name = e.name → ∃ texts,
      (stmts.filter (·.table == e.id)).mapM (·.render d q) = .ok texts ∧
      (stmts'.filter (·.table == e'.id)).mapM (·.render d' q) = .ok texts
  /-- All statements together have the same texts. -/
  texts : ∀ (q : Platform) (s : Settings) (stmts stmts' : List Statement),
    d.statements q s = .ok stmts → d'.statements q s = .ok stmts' → ∃ texts texts',
      stmts.mapM (·.render d q) = .ok texts ∧ stmts'.mapM (·.render d' q) = .ok texts' ∧
      texts'.Perm texts

namespace Database

variable {db d d' : Database} {es es' : List Entity} {p : Platform} {σ : Equiv.Perm ℕ}

/-- The entity of a name under other numbers. -/
theorem Renumbered.eq_of_name (h : Renumbered σ d d') {e e' : Entity} (he : e ∈ d.entities)
    (he' : e' ∈ d'.entities) (hname : e'.name = e.name) : e' = e.renumber σ := by
  obtain ⟨e₀, he₀, rfl⟩ := h.of_mem he'
  rw [List.inj_on_of_nodup_map h.names he₀ he hname]

/-- Under other numbers there are the same names. -/
theorem Renumbered.perm_names (h : Renumbered σ d d') (hp' : d'.Placed) :
    (d'.entities.map (·.name)).Perm (d.entities.map (·.name)) := by
  have hnodup' : (d'.entities.map (·.name)).Nodup := by
    refine List.Nodup.map_on ?_ hp'.nodup_ids.of_map
    intro e₁ he₁ e₂ he₂ hname
    obtain ⟨e, he, rfl⟩ := h.of_mem he₁
    exact (h.eq_of_name he he₂ hname.symm).symm
  refine (List.perm_ext_iff_of_nodup hnodup' h.names).mpr fun name => ?_
  constructor
  · intro hname
    obtain ⟨e', he', rfl⟩ := List.mem_map.mp hname
    obtain ⟨e, he, rfl⟩ := h.of_mem he'
    exact List.mem_map.mpr ⟨e, he, rfl⟩
  · intro hname
    obtain ⟨e, he, rfl⟩ := List.mem_map.mp hname
    exact List.mem_map.mpr ⟨e.renumber σ, h.mem he, rfl⟩

/-- An entity of a resolved and named database matches itself under other numbers. -/
theorem Renumbered.matches (h : Renumbered σ d d') (hresolved : d.Resolved) (hnamed : d.Named)
    {e : Entity} (he : e ∈ d.entities) : e.Matches d d' (e.renumber σ) where
  idMethod := rfl
  indices := rfl
  relations := by
    refine List.forall₂_map_right_iff.mpr (List.forall₂_same.mpr fun r hr => ?_)
    obtain ⟨name, hname⟩ := Option.isSome_iff_exists.mp ((hnamed e he).1 r hr)
    obtain ⟨t, ht, -⟩ := hresolved.targetEntity? (mem_relations.mpr ⟨e, he, hr⟩)
    refine ⟨⟨name, hname, hname⟩, ⟨t, t.renumber σ, ht, ?_, rfl⟩, h.multiplicity r⟩
    rw [h.targetEntity?, ht]
    rfl

/-- Renumbered databases that are finalized are the same but for the order. -/
theorem Renumbered.sameButOrder (h : Renumbered σ d d') (hs : d.Sound) (hs' : d'.Sound)
    (hflag : d.finalized = true) (hflag' : d'.finalized = true) : d.SameButOrder d' where
  names := h.perm_names hs'.placed
  entities := by
    intro e he e' he' hname
    rw [h.eq_of_name he he' hname]
    exact h.matches (hs.resolved hflag) (hs.named hflag) he
  statements := fun _ _ => h.exists_statements_iff
  tables := by
    intro q s stmts stmts' hstmts hstmts' e he e' he' hname
    rw [h.eq_of_name he he' hname]
    exact h.texts hs.placed hs'.placed (hs.resolved hflag) (hs'.resolved hflag') hstmts hstmts' he q
  texts := fun q _ _ _ hstmts hstmts' =>
    h.perm_texts hs.placed hs'.placed (hs.resolved hflag) (hs'.resolved hflag') hstmts hstmts' q

/-- Registering in another order and finalizing goes through as well. -/
theorem Yields.of_perm (hempty : db.entities = []) (hperm : es.Perm es')
    (hnames : (es.map (·.name)).Nodup) (hscratch : ∀ e ∈ es, ∀ r ∈ e.relations, r.bound = none)
    (h : db.Yields es p d) : ∃ d', db.Yields es' p d' ∧ d.SameButOrder d' := by
  obtain ⟨start, hstart, hok⟩ := h
  obtain ⟨start', hstart'⟩ := exists_registerAll_of_perm hperm ⟨start, hstart⟩
  obtain ⟨σ, hσ⟩ := renumbered_of_perm hempty hperm hnames hscratch hstart hstart'
  have hs : start.Sound := (sound_of_empty hempty).registerAll hstart
  have hs' : start'.Sound := (sound_of_empty hempty).registerAll hstart'
  have hd : d = start.finalForm p := finalize_eq_finalForm hs.placed hok
  rw [hd] at hok
  have hok' := (hσ.finalize_iff hs.placed hs'.placed p).mpr hok
  refine ⟨start'.finalForm p, ⟨start', hstart', hok'⟩, ?_⟩
  have hsound := hs.finalize p
  have hsound' := hs'.finalize p
  rw [hok] at hsound
  rw [hok'] at hsound'
  rw [hd]
  exact (hσ.finalForm p).sameButOrder hsound hsound' rfl rfl

/-- Entities that are built from scratch and have distinct short names can be registered in any
    order: finalizing goes through for every order or for none, and leaves the same but for the
    order. Distinct qualified names are not asked for, because registration insists on them. -/
theorem finalize_perm (hempty : db.entities = []) (hperm : es.Perm es')
    (hnames : (es.map (·.name)).Nodup) (hscratch : ∀ e ∈ es, ∀ r ∈ e.relations, r.bound = none)
    (p : Platform) :
    ((∃ d, db.Yields es p d) ↔ ∃ d', db.Yields es' p d') ∧
    ∀ d d', db.Yields es p d → db.Yields es' p d' → d.SameButOrder d' := by
  constructor
  · constructor
    · rintro ⟨d, h⟩
      obtain ⟨d', h', -⟩ := h.of_perm hempty hperm hnames hscratch
      exact ⟨d', h'⟩
    · rintro ⟨d', h'⟩
      obtain ⟨d, h, -⟩ := h'.of_perm hempty hperm.symm ((hperm.map _).nodup_iff.mp hnames)
        fun e he => hscratch e (hperm.mem_iff.mpr he)
      exact ⟨d, h⟩
  · intro d d' h h'
    -- registration and finalizing are functions, so the database that is found is the given one
    obtain ⟨d'', ⟨start'', hstart'', hok''⟩, hsame⟩ := h.of_perm hempty hperm hnames hscratch
    obtain ⟨start', hstart', hok'⟩ := h'
    rw [hstart'] at hstart''
    injection hstart'' with hstart''
    rw [← hstart'', hok'] at hok''
    injection hok'' with hd
    rw [hd]
    exact hsame

private def keyedBy (e : Entity) (name : String) : Entity :=
  { e with fields := e.fields ++ [{ Field.plain name .integer with primaryKey := true }] }

/-- Books and their authors, each of them with a relation to the other, and reviews of reviews. -/
def library : List Entity := [
  (keyedBy (.named "Book") "id").addRelation
    ((Relation.toTarget "Author").addReference ⟨"id", "id"⟩),
  (keyedBy (.named "Author") "id").addRelation
    ((Relation.toTarget "Book").addReference ⟨"id", "id"⟩),
  (keyedBy (.named "Review") "id").addRelation
    ((Relation.toTarget "Review").addReference ⟨"id", "id"⟩)]

/-- The library can be registered from back to front, and is the same but for the order. -/
theorem finalize_perm_library : ∃ d d', (named "library").Yields library ⟨.sqlite, false⟩ d ∧
    (named "library").Yields library.reverse ⟨.sqlite, false⟩ d' ∧ d.SameButOrder d' := by
  have hrun : (match (named "library").registerAll library with
      | .ok start => decide ((start.finalize ⟨.sqlite, false⟩).2 = .ok ())
      | .error _ => false) = true := by decide +kernel
  have hyields : ∃ d, (named "library").Yields library ⟨.sqlite, false⟩ d := by
    cases hstart : (named "library").registerAll library with
    | error v =>
        rw [hstart] at hrun
        exact nomatch hrun
    | ok start =>
        rw [hstart] at hrun
        exact ⟨_, start, hstart, Prod.ext rfl (of_decide_eq_true hrun)⟩
  have hnames : (library.map (·.name)).Nodup := by decide
  have hscratch : ∀ e ∈ library, ∀ r ∈ e.relations, r.bound = none := by decide
  have hperm : library.Perm library.reverse := library.reverse_perm.symm
  obtain ⟨hboth, hsame⟩ := @finalize_perm (named "library") _ _ rfl hperm hnames hscratch
    ⟨.sqlite, false⟩
  obtain ⟨d, h⟩ := hyields
  obtain ⟨d', h'⟩ := hboth.mp ⟨d, h⟩
  exact ⟨d, d', h, h', hsame d d' h h'⟩

end Database

end SchemaDdl
