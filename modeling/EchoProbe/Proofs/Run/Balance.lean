import EchoProbe.Proofs.Run.Books

/-!
# The balance of the books

Whatever was in the ledger or was recorded is consumed by a counted outcome, taken back, or
still in the ledger, each request once (`Balanced`). Every move balances
(`balanced_of_ledgerMove`), and so does every interleaving, as what balances can be put
together (`Balanced.trans`).
-/

namespace EchoProbe.Run

/-- The books balance between two states of the ledger: the requests from before and the
    recorded ones are, up to order, those that were consumed, those that were taken back and
    those that are left. Every counted outcome consumed one request, and tells its number. -/
def Balanced (before : List Request) (seen : List Event) (after : List Request) : Prop :=
  ∃ consumed : List Request,
    (counted seen).map (·.sequenceNumber?) = consumed.map (some ·.sequenceNumber) ∧
      (before ++ recorded seen).Perm (consumed ++ takenBack seen ++ after)

namespace Balanced

variable {before middle after : List Request} {seen more : List Event}

theorem of_quiet (quiet : Quiet seen) : Balanced before seen before := by
  refine ⟨[], ?_, ?_⟩
  · rw [counted, quiet.made_eq_nil]
    rfl
  · rw [quiet.recorded_eq_nil, quiet.takenBack_eq_nil, List.append_nil]
    rfl

/-- Books that balance up to some point and from there on balance. -/
theorem trans (h₁ : Balanced before seen middle) (h₂ : Balanced middle more after) :
    Balanced before (seen ++ more) after := by
  obtain ⟨consumed₁, htold₁, hperm₁⟩ := h₁
  obtain ⟨consumed₂, htold₂, hperm₂⟩ := h₂
  refine ⟨consumed₁ ++ consumed₂, ?_, ?_⟩
  · rw [counted_append, List.map_append, List.map_append, htold₁, htold₂]
  · -- Every request stands as often on one side as on the other.
    rw [List.perm_iff_count] at hperm₁ hperm₂ ⊢
    intro r
    have h₁ := hperm₁ r
    have h₂ := hperm₂ r
    simp only [recorded_append, takenBack_append, List.count_append] at h₁ h₂ ⊢
    omega

/-- There are as many requests on one side as on the other. -/
theorem length (h : Balanced before seen after) :
    before.length + (recorded seen).length =
      (counted seen).length + (takenBack seen).length + after.length := by
  obtain ⟨consumed, htold, hperm⟩ := h
  have htold := congrArg List.length htold
  have hperm := hperm.length_eq
  simp only [List.length_map, List.length_append] at htold hperm
  omega

end Balanced

theorem balanced_classify (l : Ledger) (p : Packet) (log : List LogLine) :
    Balanced l.requests (.classified p (l.classify p).outcome :: log.map .loggedAside)
      (l.classify p).ledger.requests := by
  have hclassified : Balanced l.requests [.classified p (l.classify p).outcome]
      (l.classify p).ledger.requests := by
    cases h : l.consumed? p with
    | none =>
      obtain ⟨hledger, huncounted⟩ := Ledger.classify_of_not_consumed? h
      refine ⟨[], ?_, ?_⟩
      · simp [counted, Event.made, huncounted]
      · rw [hledger]
        simp [Event.recorded?, Event.takenBack?]
    | some r =>
      -- The one request that the packet consumes pays for the one outcome.
      obtain ⟨⟨i, hr, hledger⟩, hcounted, htells⟩ := Ledger.classify_of_consumed? h
      refine ⟨[r], ?_, ?_⟩
      · simp [counted, Event.made, hcounted, htells]
      · rw [hledger]
        simpa [Event.recorded?, Event.takenBack?] using Ledger.requests_erase hr
  exact hclassified.trans (.of_quiet (quiet_map_loggedAside log))

theorem balanced_retract (l : Ledger) (request : Request) :
    Balanced l.requests [.retracted request (l.find? request.identifier)]
      (l.erase request.identifier).requests := by
  refine ⟨[], rfl, ?_⟩
  cases h : l.find? request.identifier with
  | none =>
    rw [Ledger.erase_of_find?_eq_none h]
    simp [Event.recorded?, Event.takenBack?]
  | some r =>
    simpa [Event.recorded?, Event.takenBack?] using Ledger.requests_erase h

/-- Requests that are handed out as lost, and no others, leave the ledger. -/
theorem balanced_lost {before after lost : List Request} {e : Event} (kind : FailureKind)
    (hloss : kind.isLoss = true) (hmade : e.made = lost.map (·.lost kind))
    (hrecorded : e.recorded? = none) (htakenBack : e.takenBack? = none)
    (hperm : before.Perm (lost ++ after)) : Balanced before [e] after := by
  refine ⟨lost, ?_, ?_⟩
  · simp only [counted, made_cons, made_nil, hmade, List.append_nil, filter_isCounted_lost hloss,
      List.map_map]
    rfl
  · simpa [hrecorded, htakenBack] using hperm

namespace Machine

variable {σ : Type} {R : Reporter σ} {m m' : Machine σ} {seen : List Event}

/-- Every move balances. -/
theorem balanced_of_ledgerMove (move : LedgerMove m m' seen) :
    Balanced m.ledger.requests seen m'.ledger.requests := by
  cases move with
  | rest quiet ledger =>
    rw [ledger]
    exact .of_quiet quiet
  | record request sendTime free ledger =>
    refine ⟨[], rfl, ?_⟩
    have hperm := Ledger.requests_record free m.target m.clock
    rw [ledger] at hperm
    exact List.perm_append_comm.trans hperm.symm
  | retract request _ ledger =>
    rw [ledger]
    exact balanced_retract m.ledger request
  | classify packet log _ ledger =>
    rw [ledger]
    exact balanced_classify m.ledger packet log
  | sweep ledger =>
    rw [ledger]
    exact balanced_lost .timeout rfl rfl rfl rfl
      (Ledger.requests_sweep m.ledger m.clock m.settings.maxRtt)
  | drain ledger =>
    rw [ledger]
    refine balanced_lost .unanswered rfl rfl rfl rfl ?_
    rw [Ledger.requests_drain_snd, List.append_nil]
    exact Ledger.requests_drain m.ledger

/-- Every step balances. -/
theorem balanced_of_step {a : Action} (taken : m.stepAnytime R a = some (m', seen)) :
    Balanced m.ledger.requests seen m'.ledger.requests := by
  obtain ⟨now, move⟩ := step_cases taken
  have hbalanced := balanced_of_ledgerMove (ledgerMove_of_move move)
  exact hbalanced

/-- Every interleaving balances. -/
theorem Interleaving.balanced {start : Machine σ} {events : List Event}
    (run : Interleaving R start events m) :
    Balanced start.ledger.requests events m.ledger.requests := by
  refine run.invariant (P := fun events m =>
    Balanced start.ledger.requests events m.ledger.requests) (.of_quiet quiet_nil) ?_
  intro events m m' seen before move
  exact before.trans (balanced_of_ledgerMove (ledgerMove_of_move move))

end Machine

end EchoProbe.Run
