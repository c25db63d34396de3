import EchoProbe.Proofs.Statistics

/-!
# The order of the records

But for the deviation, a sum of floating-point numbers, the figures of a summary do not depend on
the order of the records.

* `min?_roundTrips_eq_some_iff`, `max?_roundTrips_eq_some_iff`: the least and the greatest round
  trip are that in the order of the durations;
* `Rearranged`: the records are the same up to their order;
* `Rearranged.sameFigures`: then so are the figures;
* `SameFigures.summarize`: and summaries tell the figures.
-/

namespace EchoProbe

namespace Duration

instance : LE Duration := ⟨fun d e => d.nanos ≤ e.nanos⟩

theorem le_def {d e : Duration} : d ≤ e ↔ d.nanos ≤ e.nanos := Iff.rfl

instance : Std.IsLinearOrder Duration where
  le_refl _ := Nat.le_refl _
  le_trans _ _ _ := Nat.le_trans
  le_antisymm _ _ hde hed := ext (Nat.le_antisymm hde hed)
  le_total _ _ := Nat.le_total _ _

theorem min_def (d e : Duration) : min d e = if d.nanos ≤ e.nanos then d else e := rfl

theorem max_def (d e : Duration) : max d e = if d.nanos ≤ e.nanos then e else d := rfl

instance : Std.LawfulOrderMin Duration where
  min_eq_or d e := by
    rw [min_def]
    split <;> simp
  le_min_iff c d e := by
    rw [min_def, le_def, le_def, le_def]
    split <;> omega

instance : Std.LawfulOrderMax Duration where
  max_eq_or d e := by
    rw [max_def]
    split <;> simp
  max_le_iff d e c := by
    rw [max_def, le_def, le_def, le_def]
    split <;> omega

end Duration

namespace Statistics

variable {s t : Statistics}

theorem min?_roundTrips_eq_some_iff {d : Duration} :
    s.roundTrips.min? = some d ↔ d ∈ s.roundTrips ∧ ∀ e ∈ s.roundTrips, d ≤ e :=
  List.min?_eq_some_iff

theorem max?_roundTrips_eq_some_iff {d : Duration} :
    s.roundTrips.max? = some d ↔ d ∈ s.roundTrips ∧ ∀ e ∈ s.roundTrips, e ≤ d :=
  List.max?_eq_some_iff

/-- A sum does not depend on the order of its terms, so the average does not either. -/
theorem average_eq_of_perm {roundTrips others : List Duration} (h : roundTrips.Perm others)
    (sent : Nat) : average sent roundTrips = average sent others := by
  have hsum : roundTrips.foldl (fun sum d => sum + d.nanos) 0 =
      others.foldl (fun sum d => sum + d.nanos) 0 :=
    h.foldl_eq' (fun d _ e _ sum => Nat.add_right_comm sum d.nanos e.nanos) 0
  rw [average, average, hsum]

/-! ## The same records in another order -/

/-- Both statistics hold the same records, each as often as the other. -/
def Rearranged (s t : Statistics) : Prop := s.records.toList.Perm t.records.toList

/-- Both statistics come to the same figures but for the deviation. -/
structure SameFigures (s t : Statistics) : Prop where
  sent : s.size = t.size
  received : s.roundTrips.length = t.roundTrips.length
  minRtt : s.roundTrips.min? = t.roundTrips.min?
  avgRtt : average s.size s.roundTrips = average t.size t.roundTrips
  maxRtt : s.roundTrips.max? = t.roundTrips.max?

theorem Rearranged.size_eq (h : Rearranged s t) : s.size = t.size := h.length_eq

theorem Rearranged.roundTrips_perm (h : Rearranged s t) : s.roundTrips.Perm t.roundTrips :=
  h.filterMap _

/-- The same records in another order come to the same figures. -/
theorem Rearranged.sameFigures (h : Rearranged s t) : SameFigures s t where
  sent := h.size_eq
  received := h.roundTrips_perm.length_eq
  minRtt := by
    ext d
    rw [min?_roundTrips_eq_some_iff, min?_roundTrips_eq_some_iff]
    simp only [h.roundTrips_perm.mem_iff]
  avgRtt := by rw [h.size_eq, average_eq_of_perm h.roundTrips_perm]
  maxRtt := by
    ext d
    rw [max?_roundTrips_eq_some_iff, max?_roundTrips_eq_some_iff]
    simp only [h.roundTrips_perm.mem_iff]

/-- Whatever it does about the deviation, a summary tells the figures of its statistics. -/
theorem figures_summarize {now : Instant} {a : Summary} (h : s.summarize now = some a) :
    a.sent = s.size ∧ a.received = s.roundTrips.length ∧
      a.minRtt = s.roundTrips.min?.getD .zero ∧ a.avgRtt = average s.size s.roundTrips ∧
      a.maxRtt = s.roundTrips.max?.getD .zero := by
  obtain ⟨hsent, hreceived⟩ := sent_summarize h
  rw [summarize] at h
  split at h
  · rename_i hempty
    obtain rfl := Option.some.inj h
    have hrecords : s.records = #[] := Array.isEmpty_iff.1 hempty
    have hnone : s.roundTrips = [] := by rw [roundTrips, hrecords]; rfl
    rw [hnone] at hreceived ⊢
    refine ⟨hsent, hreceived, rfl, ?_, rfl⟩
    rw [average, List.foldl_nil, Nat.zero_div]
    rfl
  · obtain ⟨deviation, -, rfl⟩ := Option.map_eq_some_iff.1 h
    exact ⟨hsent, hreceived, rfl, rfl, rfl⟩

/-- Two summaries of such statistics agree but for the time that elapsed and the deviation. -/
theorem SameFigures.summarize (h : SameFigures s t) {now later : Instant} {a b : Summary}
    (ha : s.summarize now = some a) (hb : t.summarize later = some b) :
    a.sent = b.sent ∧ a.received = b.received ∧ a.minRtt = b.minRtt ∧ a.avgRtt = b.avgRtt ∧
      a.maxRtt = b.maxRtt := by
  obtain ⟨hsent, hreceived, hmin, havg, hmax⟩ := figures_summarize ha
  obtain ⟨hsent', hreceived', hmin', havg', hmax'⟩ := figures_summarize hb
  rw [hsent, hreceived, hmin, havg, hmax, hsent', hreceived', hmin', havg', hmax']
  exact ⟨h.sent, h.received, by rw [h.minRtt], h.avgRtt, by rw [h.maxRtt]⟩

/-! ## Outcomes in another order -/

/-- An outcome is recorded behind the others, or not at all. -/
theorem records_addOutcome (s : Statistics) (o : Outcome) :
    (s.addOutcome o).records.toList = s.records.toList ++ o.record?.toList := by
  rw [addOutcome]
  cases o.record? with
  | none => exact (List.append_nil _).symm
  | some r => exact Array.toList_push

/-- Outcomes are recorded in their order. -/
theorem records_foldl_addOutcome (s : Statistics) (outcomes : List Outcome) :
    (outcomes.foldl addOutcome s).records.toList =
      s.records.toList ++ outcomes.filterMap Outcome.record? := by
  induction outcomes generalizing s with
  | nil => exact (List.append_nil _).symm
  | cons o outcomes ih =>
    rw [List.foldl_cons, ih, records_addOutcome, List.append_assoc, List.filterMap_cons]
    cases o.record? <;> rfl

/-- Outcomes in another order are the same records in another order. -/
theorem rearranged_foldl_addOutcome {outcomes others : List Outcome} (h : outcomes.Perm others)
    (s : Statistics) :
    Rearranged (outcomes.foldl addOutcome s) (others.foldl addOutcome s) := by
  rw [Rearranged, records_foldl_addOutcome, records_foldl_addOutcome]
  exact (h.filterMap _).append_left _

end Statistics

/-! ## Reporters -/

namespace Reporter

variable {σ : Type} {R : Reporter σ} {view : σ → Statistics}

/-- The state of the reporter after it has been told the outcomes one after another. -/
def tellEach (R : Reporter σ) (state : σ) (outcomes : List Outcome) : σ :=
  outcomes.foldl (fun state o => (R.report o state).state) state

/-- A reporter that counts does so over many outcomes. -/
theorem Counts.tellEach (h : R.Counts view) (state : σ) (outcomes : List Outcome) :
    view (R.tellEach state outcomes) = outcomes.foldl Statistics.addOutcome (view state) := by
  induction outcomes generalizing state with
  | nil => rfl
  | cons o outcomes ih => exact (ih _).trans (by rw [h.report, List.foldl_cons])

end Reporter

end EchoProbe
