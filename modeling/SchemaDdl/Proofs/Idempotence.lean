import SchemaDdl.Proofs.Reachability

/-!
# Finalizing twice

A finalized database is a fixed point of all three passes: its relations are bound to what they
resolve to, its entities are settled for the platform, and all names are stored. So a second
finalization for the same platform does nothing. It may still fail: names that were fixed can change
what a foreign path stands for.
-/

namespace SchemaDdl

namespace Database

variable {db d : Database} {p : Platform}

/-- On a resolved database with all names stored, whose entities are settled, a finalization that is
    not stopped by a relation goes through and does nothing. -/
theorem finalize_of_settled (hp : d.Placed) (hresolved : d.Resolved) (hnamed : d.Named)
    (hsettled : ∀ e ∈ d.entities, e.Settled p d) (hflag : d.finalized = true) :
    (∃ f, d.finalize p = (d, .error f)) ∨ d.finalize p = (d, .ok ()) := by
  rcases finalize_cases hp p with hstop | ⟨-, mid, -, hcase⟩
  · exact Or.inl hstop
  · rw [hresolved.allBound_eq_self hp, Platform.normalize_of_settled hsettled] at hcase
    rcases hcase with ⟨f, hn, -⟩ | ⟨hn, heq⟩
    · exact nomatch congrArg Prod.snd hn
    · injection hn with hmid
      refine Or.inr ?_
      rw [heq, ← hmid, allNamed_eq_self hnamed, ← hflag]

/-- A second finalization for the same platform changes nothing at all, whatever it answers. -/
theorem finalize_finalize (h : db.Reachable) (hok : db.finalize p = (d, .ok ())) :
    (d.finalize p).1 = d := by
  have hp : db.Placed := h.sound.placed
  have hsound : d.Sound := (h.finalize hok).sound
  have hflag : d.finalized = true := by
    obtain ⟨-, mid, -, -, rfl⟩ := finalize_eq_ok hp hok
    rfl
  rcases finalize_of_settled hsound.placed (hsound.resolved hflag) (hsound.named hflag)
      (finalize_settles hp hok) hflag with ⟨f, heq⟩ | heq
  · rw [heq]
  · rw [heq]

/-- Finalizing the community for MySQL adds a unique index, a heavy index and names, and finalizing
    it again changes nothing. -/
theorem finalize_finalize_community :
    ∃ d, community.Reachable ∧ community.finalize ⟨.mysql "InnoDB", false⟩ = (d, .ok ()) ∧
      d ≠ community ∧ (d.finalize ⟨.mysql "InnoDB", false⟩).1 = d := by
  have hok : community.finalize ⟨.mysql "InnoDB", false⟩ =
      ((community.finalize ⟨.mysql "InnoDB", false⟩).1, .ok ()) :=
    Prod.ext rfl (by decide +kernel)
  exact ⟨_, community_reachable, hok, by decide +kernel,
    finalize_finalize community_reachable hok⟩

end Database

end SchemaDdl
