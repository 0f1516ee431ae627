import RunReports.Proofs.MomentText
import RunReports.Report.Record

/-!
# Universal time

A moment is moved to universal time without moving its instant, and this is possible exactly if a
calendar shows that instant there. Texts are made of moments in universal time only: two of them are
equal exactly if the instants are, and a text is read as the moment that it was made of. Offsets may
be of any size below a day, down to the microsecond.
-/
namespace RunReports.Calendar

variable {m u : Moment}

/-- A valid moment in universal time, at the instant of another moment. -/
structure Moment.IsUtcOf (u m : Moment) : Prop where
  valid : u.IsValid
  universal : u.offset = some 0
  instant : u.instant = m.instant

theorem Moment.instant_of_universal (universal : u.offset = some 0) : u.instant = u.micros := by
  rw [Moment.instant, universal, Option.getD_some, Int.sub_zero]

theorem Moment.isValid_of_universal (universal : u.offset = some 0)
    (early : u.micros < microsLimit) : u.IsValid := by
  refine Moment.isValid_iff.mpr ⟨early, ?_⟩
  rw [universal]
  rintro _ ⟨⟩
  decide

/-- A moment is moved to universal time exactly where there is such a moment. -/
theorem Moment.toUtc_eq_some : m.toUtc = some u ↔ u.IsUtcOf m := by
  rw [Moment.toUtc, Option.ite_none_right_eq_some, Option.some.injEq]
  constructor
  · rintro ⟨⟨pos, lt⟩, rfl⟩
    refine ⟨Moment.isValid_of_universal rfl ?_, rfl, ?_⟩
    · simp only
      omega
    · rw [Moment.instant_of_universal rfl]
      exact Int.toNat_of_nonneg pos
  · rintro ⟨valid, universal, same⟩
    have early := (Moment.isValid_iff.mp valid).1
    rw [Moment.instant_of_universal universal] at same
    refine ⟨by omega, ?_⟩
    cases u
    simp only at universal same
    rw [← same, universal, Int.toNat_natCast]

theorem Moment.IsUtcOf.self (is : u.IsUtcOf m) : u.IsUtcOf u := ⟨is.valid, is.universal, rfl⟩

/-- The instant decides about the moment in universal time. -/
theorem Moment.toUtc_congr {m' : Moment} (same : m'.instant = m.instant) : m'.toUtc = m.toUtc := by
  rw [Moment.toUtc, Moment.toUtc, same]

/-- A moment is not moved exactly where no moment in universal time is at its instant. -/
theorem Moment.toUtc_eq_none : m.toUtc = none ↔
    ∀ u : Moment, u.IsValid → u.offset = some 0 → u.instant ≠ m.instant := by
  rw [Option.eq_none_iff_forall_ne_some]
  constructor
  · intro unmoved u valid universal same
    exact unmoved u (Moment.toUtc_eq_some.mpr ⟨valid, universal, same⟩)
  · intro apart u moved
    have is := Moment.toUtc_eq_some.mp moved
    exact apart u is.valid is.universal is.instant

/-- A moment without an offset is read as one in universal time. -/
theorem Moment.toUtc_of_naive (valid : m.IsValid) (naive : m.offset = none) :
    m.toUtc = some m.asUtc := by
  have early := (Moment.isValid_iff.mp valid).1
  refine Moment.toUtc_eq_some.mpr ⟨Moment.isValid_of_universal rfl early, rfl, ?_⟩
  rw [Moment.instant, Moment.instant, naive]
  rfl

/-- The day that universal time shows is reached from the first one in as many steps as whole days
lie before the instant. -/
theorem Moment.IsUtcOf.date_eq (is : u.IsUtcOf m) :
    u.date = nextDay^[(m.instant / microsPerDay).toNat] (1, 1, 1) := by
  rw [u.date_eq_iterate, ← is.instant, Moment.instant_of_universal is.universal,
    ← Int.natCast_ediv, Int.toNat_natCast]

end RunReports.Calendar

namespace RunReports.Report

open RunReports RunReports.Calendar

variable {m m' u : Moment}

theorem momentJson?_of_toUtc (moved : m.toUtc = some u) :
    momentJson? (some m) = some (.str u.text) := by
  rw [momentJson?, moved, Option.map_some]

theorem momentJson?_eq_some {text : String} :
    momentJson? (some m) = some (.str text) ↔ ∃ u, m.toUtc = some u ∧ u.text = text := by
  simp only [momentJson?, Option.map_eq_some_iff, Json.str.injEq]

/-- Two texts are equal exactly if the instants are: a text is read as one moment only. -/
theorem momentJson?_eq_text_iff (moved : m.toUtc = some u) :
    momentJson? (some m') = some (.str u.text) ↔ m'.instant = m.instant := by
  constructor
  · intro given
    obtain ⟨u', moved', same⟩ := momentJson?_eq_some.mp given
    have is := Moment.toUtc_eq_some.mp moved
    have is' := Moment.toUtc_eq_some.mp moved'
    have read := Moment.read?_text is'.valid
    rw [same, Moment.read?_text is.valid] at read
    rw [← is'.instant, ← is.instant, Option.some.inj read]
  · intro same
    exact momentJson?_of_toUtc ((Moment.toUtc_congr same).trans moved)

/-- A valid moment is moved to the valid moment in universal time at the same instant, on the day
that the calendar reaches there, if there is one at all. A second move changes nothing. Its text is
read as the moved moment, and is the text of the moments at this instant only. -/
theorem utc_same_instant (valid : m.IsValid) :
    (∀ u, m.toUtc = some u ↔ u.IsUtcOf m) ∧
      (m.toUtc = none ↔ ∀ u : Moment, u.IsValid → u.offset = some 0 → u.instant ≠ m.instant) ∧
      (m.offset = none → m.toUtc = some m.asUtc) ∧
      (m.toUtc = none → momentJson? (some m) = none) ∧
      ∀ u, m.toUtc = some u →
        u.date = nextDay^[(m.instant / microsPerDay).toNat] (1, 1, 1) ∧ u.toUtc = some u ∧
          ∃ text, momentJson? (some m) = some (.str text) ∧ Moment.read? text = some u ∧
            ∀ m' : Moment, momentJson? (some m') = some (.str text) ↔ m'.instant = m.instant := by
  refine ⟨fun u => Moment.toUtc_eq_some, Moment.toUtc_eq_none, Moment.toUtc_of_naive valid, ?_, ?_⟩
  · intro outside
    rw [momentJson?, outside, Option.map_none]
  · intro u moved
    have is := Moment.toUtc_eq_some.mp moved
    exact ⟨is.date_eq, Moment.toUtc_eq_some.mpr is.self, u.text, momentJson?_of_toUtc moved,
      Moment.read?_text is.valid, fun _ => momentJson?_eq_text_iff moved⟩

/-- The last half hour of a day, an hour and half a second behind universal time. -/
def lateFebruary : Moment :=
  ⟨dayNumber 2024 2 28 * microsPerDay + (3600 * 23 + 60 * 30 + 0) * 1000000 + 1, some (-3600500000)⟩

theorem isValid_lateFebruary : lateFebruary.IsValid := ⟨2024, 2, 28, 23, 30, 0, 1, by decide⟩

theorem utc_same_instant_leapDay :
    lateFebruary.text = "2024-02-28T23:30:00.000001-01:00:00.500000" ∧
      ∃ u : Moment, u.IsUtcOf lateFebruary ∧ u.date = (2024, 2, 29) ∧
        momentJson? (some lateFebruary) = some (.str "2024-02-29T00:30:00.500001+00:00") ∧
        Moment.read? "2024-02-29T00:30:00.500001+00:00" = some u := by
  have moved : lateFebruary.toUtc = some ⟨lateFebruary.micros + 3600500000, some 0⟩ := by decide
  have written : Moment.text ⟨lateFebruary.micros + 3600500000, some 0⟩ =
      "2024-02-29T00:30:00.500001+00:00" := by decide +kernel
  obtain ⟨isUtc, -, -, -, texts⟩ := utc_same_instant isValid_lateFebruary
  obtain ⟨-, -, text, made, read, -⟩ := texts _ moved
  have same : text = "2024-02-29T00:30:00.500001+00:00" := by
    rw [momentJson?_of_toUtc moved, written] at made
    exact (Json.str.inj (Option.some.inj made)).symm
  subst same
  exact ⟨by decide +kernel, _, (isUtc _).mp moved, by decide +kernel, made, read⟩

end RunReports.Report
