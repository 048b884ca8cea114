import Mathlib.Data.List.Induction
import Mathlib.Data.List.Nodup
import SchemaDdl.OrderedMap
import SchemaDdl.Proofs.Lists

/-!
# Maps that keep the order of insertion, by their keys

What putting a value does to the look-up of other keys and to the list of keys.

* **`OrderedMap.get?_put`**, **`OrderedMap.get?_ofList_eq_find?`**: look-up after putting.
* **`OrderedMap.nodup_keys_put`**, **`OrderedMap.nodup_keys_ofList`**: no key occurs twice.
* **`OrderedMap.keys_ofList`**, **`OrderedMap.entries_ofList`**: what a map made from a list holds.
* **`OrderedMap.ext_of_get?`**, **`OrderedMap.putAll_entries_ofList`**: maps that are equal.
* **`OrderedMap.sameMap_iff`**: maps are the same if all look-ups are.
-/

namespace SchemaDdl.OrderedMap

variable {α β : Type} [DecidableEq α] {m : OrderedMap α β} {key key' : α} {value : β}

/-- Putting a value under a key changes what is found under this key and under no other. -/
theorem get?_put :
    (m.put key value).get? key' = if key' = key then some value else m.get? key' := by
  have hentries : ∀ entries : List (α × β), (putEntry key value entries).lookup key' =
      if key' = key then some value else entries.lookup key' := by
    intro entries
    induction entries with
    | nil => by_cases h : key' = key <;> simp [putEntry, List.lookup_cons, beq_eq_decide, h]
    | cons e entries ih =>
        obtain ⟨k, v⟩ := e
        rw [putEntry, List.lookup_cons]
        by_cases hk : k = key
        · subst hk
          by_cases h : key' = k <;> simp [List.lookup_cons, beq_eq_decide, h]
        · rw [if_neg hk, List.lookup_cons, ih]
          by_cases h : key' = k
          · subst h
            simp [hk]
          · simp [beq_eq_decide, h]
  exact hentries m.entries

/-- The last entry is put after all others, so it wins. -/
theorem ofList_concat (entries : List (α × β)) (e : α × β) :
    ofList (entries ++ [e]) = (ofList entries).put e.1 e.2 := by
  rw [ofList, putAll, List.foldl_append]
  rfl

/-- In a map made from a list, the last pair of a key counts. -/
theorem get?_ofList_eq_find? (entries : List (α × β)) (key : α) :
    (ofList entries).get? key = (entries.reverse.find? (·.1 == key)).map Prod.snd := by
  induction entries using List.reverseRecOn with
  | nil => rfl
  | append_singleton entries e ih =>
      rw [ofList_concat, get?_put, ih, List.reverse_append, List.reverse_singleton,
        List.singleton_append, List.find?_cons]
      by_cases h : key = e.1
      · simp [h]
      · simp [h, beq_eq_decide, Ne.symm h]

/-- In a map made from items that agree on the value of a key, every item counts. -/
theorem get?_ofList_map {γ : Type} {items : List γ} {k : γ → α} {v : γ → β}
    (h : ∀ x ∈ items, ∀ y ∈ items, k x = k y → v x = v y) :
    (ofList (items.map fun x => (k x, v x))).get? key = some value ↔
      ∃ x ∈ items, k x = key ∧ v x = value := by
  have hfound : ∀ x, items.reverse.find? (fun x => k x == key) = some x → x ∈ items ∧ k x = key :=
    fun x hx => ⟨List.mem_reverse.mp (List.mem_of_find?_eq_some hx),
      by simpa using List.find?_some hx⟩
  rw [get?_ofList_eq_find?, ← List.map_reverse, List.find?_map, Option.map_map,
    Option.map_eq_some_iff]
  constructor
  · rintro ⟨x, hx, hvalue⟩
    exact ⟨x, (hfound x hx).1, (hfound x hx).2, hvalue⟩
  · rintro ⟨x, hx, hkey, hvalue⟩
    have hsome : (items.reverse.find? (fun x => k x == key)).isSome = true :=
      List.find?_isSome.mpr ⟨x, List.mem_reverse.mpr hx, beq_iff_eq.mpr hkey⟩
    obtain ⟨y, hy⟩ := Option.isSome_iff_exists.mp hsome
    exact ⟨y, hy, (h y (hfound y hy).1 x hx ((hfound y hy).2.trans hkey.symm)).trans hvalue⟩

theorem mem_of_get? (h : m.get? key = some value) : (key, value) ∈ m.entries := by
  obtain ⟨before, after, heq, -⟩ := List.lookup_eq_some_iff.mp h
  rw [heq]
  exact List.mem_append_right _ List.mem_cons_self

/-- Putting a value brings one entry and no other. -/
theorem mem_entries_put {e : α × β} (h : e ∈ (m.put key value).entries) :
    e = (key, value) ∨ e ∈ m.entries := by
  have hentries : ∀ entries : List (α × β), e ∈ putEntry key value entries →
      e = (key, value) ∨ e ∈ entries := by
    intro entries he
    induction entries with
    | nil => exact .inl (List.mem_singleton.mp he)
    | cons e' entries ih =>
        obtain ⟨k, v⟩ := e'
        rw [putEntry] at he
        split at he
        · rename_i hk
          rcases List.mem_cons.mp he with rfl | hrest
          · exact .inl (by rw [hk])
          · exact .inr (List.mem_cons_of_mem _ hrest)
        · rcases List.mem_cons.mp he with rfl | hrest
          · exact .inr List.mem_cons_self
          · exact (ih hrest).imp_right (List.mem_cons_of_mem _)
  exact hentries m.entries h

-- ── Keys ──────────────────────────────────────────────────────────────────────

/-- Putting a value gives its key a last place, unless it has a place already. -/
theorem keys_put (m : OrderedMap α β) (key : α) (value : β) :
    (m.put key value).keys = if key ∈ m.keys then m.keys else m.keys ++ [key] := by
  have hentries : ∀ entries : List (α × β), (putEntry key value entries).map Prod.fst =
      if key ∈ entries.map Prod.fst then entries.map Prod.fst
      else entries.map Prod.fst ++ [key] := by
    intro entries
    induction entries with
    | nil => rfl
    | cons e entries ih =>
        obtain ⟨k, v⟩ := e
        rw [putEntry]
        by_cases hk : k = key
        · simp [hk]
        · rw [if_neg hk, List.map_cons, List.map_cons, ih]
          by_cases hmem : key ∈ entries.map Prod.fst
          · rw [if_pos hmem, if_pos (List.mem_cons_of_mem _ hmem)]
          · have hnew : key ∉ k :: entries.map Prod.fst := fun h =>
              (List.mem_cons.mp h).elim (fun heq => hk heq.symm) hmem
            rw [if_neg hmem, if_neg hnew, List.cons_append]
  exact hentries m.entries

/-- No key gets a second entry. -/
theorem nodup_keys_put (h : m.keys.Nodup) : (m.put key value).keys.Nodup := by
  rw [keys_put]
  split
  · exact h
  · rename_i hnew
    rw [← List.concat_eq_append]
    exact List.Nodup.concat hnew h

/-- No key stands in a map twice, however often it was put. -/
theorem nodup_keys_ofList (entries : List (α × β)) : (ofList entries).keys.Nodup := by
  have hputAll : ∀ (entries : List (α × β)) (m : OrderedMap α β), m.keys.Nodup →
      (m.putAll entries).keys.Nodup := by
    intro entries
    induction entries with
    | nil => exact fun _ h => h
    | cons e entries ih => exact fun _ h => ih _ (nodup_keys_put h)
  exact hputAll entries empty List.nodup_nil

/-- Without repetitions, what is put at the end goes to the end unless it is there already. -/
theorem eraseDups_concat (l : List α) (a : α) :
    (l ++ [a]).eraseDups = if a ∈ l.eraseDups then l.eraseDups else l.eraseDups ++ [a] := by
  rw [List.eraseDups_append]
  by_cases h : a ∈ l
  · simp [List.removeAll, h]
  · simp [List.removeAll, h, List.eraseDups_cons]

/-- What is left after erasing repetitions has none. -/
theorem nodup_eraseDups (l : List α) : l.eraseDups.Nodup := by
  induction l using List.reverseRecOn with
  | nil => exact List.nodup_nil
  | append_singleton l a ih =>
      rw [eraseDups_concat]
      split
      · exact ih
      · rename_i hnew
        rw [← List.concat_eq_append]
        exact List.Nodup.concat hnew ih

/-- Repetitions in the second of two lists may be erased beforehand. -/
theorem eraseDups_append_eraseDups (l l' : List α) :
    (l ++ l'.eraseDups).eraseDups = (l ++ l').eraseDups := by
  induction l' using List.reverseRecOn with
  | nil => rfl
  | append_singleton l' a ih =>
      rw [← List.append_assoc, eraseDups_concat (l ++ l'), ← ih, eraseDups_concat l']
      by_cases h : a ∈ l'.eraseDups
      · have hmem : a ∈ (l ++ l'.eraseDups).eraseDups :=
          List.mem_eraseDups.mpr (List.mem_append_right l h)
        rw [if_pos h, if_pos hmem]
      · rw [if_neg h, ← List.append_assoc, eraseDups_concat]

/-- A map made from a list has the keys of the list, in order of first occurrence. -/
theorem keys_ofList (entries : List (α × β)) :
    (ofList entries).keys = (entries.map Prod.fst).eraseDups := by
  induction entries using List.reverseRecOn with
  | nil => rfl
  | append_singleton entries e ih =>
      rw [ofList_concat, keys_put, ih, List.map_append, List.map_singleton, eraseDups_concat]

/-- A value under a new key gets an entry behind all others. -/
theorem entries_put_of_not_mem (h : key ∉ m.keys) :
    (m.put key value).entries = m.entries ++ [(key, value)] := by
  have hentries : ∀ entries : List (α × β), key ∉ entries.map Prod.fst →
      putEntry key value entries = entries ++ [(key, value)] := by
    intro entries hnew
    induction entries with
    | nil => rfl
    | cons e entries ih =>
        rw [List.map_cons, List.mem_cons, not_or] at hnew
        rw [putEntry, if_neg (Ne.symm hnew.1), ih hnew.2]
        rfl
  exact hentries m.entries h

/-- A map made from a list without repeated keys is that list. -/
theorem entries_ofList {entries : List (α × β)} (h : (entries.map Prod.fst).Nodup) :
    (ofList entries).entries = entries := by
  induction entries using List.reverseRecOn with
  | nil => rfl
  | append_singleton entries e ih =>
      rw [List.map_append, List.nodup_append] at h
      have hnew : e.1 ∉ (ofList entries).keys := by
        rw [keys_ofList, List.mem_eraseDups]
        exact fun hmem => h.2.2 e.1 hmem e.1 (List.mem_singleton.mpr rfl) rfl
      rw [ofList_concat, entries_put_of_not_mem hnew, ih h.1]

theorem mem_keys_iff : key ∈ m.keys ↔ ∃ value, m.get? key = some value := by
  rw [← Option.isSome_iff_exists, get?, List.lookup_isSome_iff, keys, List.mem_map]
  exact exists_congr fun e => and_congr_right fun _ => by rw [beq_iff_eq, eq_comm]

/-- Where no key occurs twice, every entry is found under its key. -/
theorem get?_eq_some_iff (h : m.keys.Nodup) :
    m.get? key = some value ↔ (key, value) ∈ m.entries := by
  refine ⟨mem_of_get?, fun hmem => ?_⟩
  obtain ⟨before, after, heq⟩ := List.append_of_mem hmem
  refine List.lookup_eq_some_iff.mpr ⟨before, after, heq, fun e he => ?_⟩
  -- an entry in front with the same key would be a second one
  rw [keys, heq, List.map_append, List.nodup_append] at h
  rw [bne_iff_ne]
  exact fun hkey => h.2.2 e.1 (List.mem_map_of_mem he) key
    (List.mem_map_of_mem (f := Prod.fst) List.mem_cons_self) hkey.symm

-- ── Equality ──────────────────────────────────────────────────────────────────

/-- Where no key occurs twice, the entries are what the map answers for its keys. -/
theorem entries_eq_filterMap (h : m.keys.Nodup) :
    m.entries = m.keys.filterMap fun key => (m.get? key).map fun value => (key, value) := by
  have hentry : ∀ e ∈ m.entries, ((m.get? e.1).map fun value => (e.1, value)) = some e :=
    fun e he => by rw [(get?_eq_some_iff h).mpr he, Option.map_some]
  rw [keys, List.filterMap_map]
  exact (List.filterMap_some.symm.trans (List.filterMap_congr fun e he => (hentry e he).symm))

/-- Maps with the same keys in the same order that answer alike are equal. -/
theorem ext_of_get? {n : OrderedMap α β} (hm : m.keys.Nodup) (hkeys : m.keys = n.keys)
    (h : ∀ key, m.get? key = n.get? key) : m = n := by
  have hentries : m.entries = n.entries := by
    rw [entries_eq_filterMap hm, entries_eq_filterMap (hkeys ▸ hm), hkeys]
    simp only [h]
  cases m
  exact congrArg OrderedMap.mk hentries

/-- To put all pairs of a list, it is enough to put the entries of the map that the list gives. -/
theorem putAll_entries_ofList (front entries : List (α × β)) :
    (ofList front).putAll (ofList entries).entries = ofList (front ++ entries) := by
  have happend : ∀ back, (ofList front).putAll back = ofList (front ++ back) :=
    fun back => List.foldl_append.symm
  have hget : ∀ back key, (ofList (front ++ back)).get? key =
      ((ofList back).get? key).or ((ofList front).get? key) := fun back key => by
    rw [get?_ofList_eq_find?, List.reverse_append, List.find?_append, Option.map_or,
      ← get?_ofList_eq_find?, ← get?_ofList_eq_find?]
  have hsame : ofList (ofList entries).entries = ofList entries :=
    congrArg mk (entries_ofList (nodup_keys_ofList entries))
  rw [happend]
  refine ext_of_get? (nodup_keys_ofList _) ?_ fun key => ?_
  · have hkeys : (ofList entries).entries.map Prod.fst = (entries.map Prod.fst).eraseDups :=
      keys_ofList entries
    rw [keys_ofList, keys_ofList, List.map_append, List.map_append, hkeys,
      eraseDups_append_eraseDups]
  · rw [hget, hget, hsame]

/-- Maps are the same if they give the same answer for every key. -/
theorem sameMap_iff [DecidableEq β] {n : OrderedMap α β} (hm : m.keys.Nodup) (hn : n.keys.Nodup) :
    m.sameMap n = true ↔ ∀ key, m.get? key = n.get? key := by
  rw [sameMap, Bool.and_eq_true, beq_iff_eq, List.all_eq_true]
  simp only [beq_iff_eq]
  constructor
  · rintro ⟨hlength, hentries⟩ key
    have hfound : ∀ key value, m.get? key = some value → n.get? key = some value := fun _ _ h =>
      hentries _ (mem_of_get? h)
    cases hkey : m.get? key with
    | some value => exact (hfound key value hkey).symm
    | none =>
        -- as many keys, all of them among the others, are all the others
        have hsub : m.keys ⊆ n.keys := fun k hk => by
          obtain ⟨value, hvalue⟩ := mem_keys_iff.mp hk
          exact mem_keys_iff.mpr ⟨value, hfound k value hvalue⟩
        have hcount : m.keys.length = n.keys.length := by
          rw [keys, keys, List.length_map, List.length_map, hlength]
        have hperm : m.keys.Perm n.keys := perm_of_length_eq hm hcount hsub
        refine (Option.eq_none_iff_forall_ne_some.mpr fun value hvalue => ?_).symm
        obtain ⟨value', hvalue'⟩ :=
          mem_keys_iff.mp (hperm.mem_iff.mpr (mem_keys_iff.mpr ⟨value, hvalue⟩))
        rw [hkey] at hvalue'
        exact nomatch hvalue'
  · intro h
    have hperm : m.keys.Perm n.keys := by
      refine (List.perm_ext_iff_of_nodup hm hn).mpr fun key => ?_
      rw [mem_keys_iff, mem_keys_iff, h]
    refine ⟨?_, fun e he => ?_⟩
    · rw [← List.length_map (f := Prod.fst), ← List.length_map (f := Prod.fst)]
      exact hperm.length_eq
    · rw [← h]
      exact (get?_eq_some_iff hm).mpr he

end SchemaDdl.OrderedMap
