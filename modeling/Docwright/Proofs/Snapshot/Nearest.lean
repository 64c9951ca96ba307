import Docwright.Snapshot.Table

namespace Docwright.Snapshot

/-- No table is nearer than `t`, and all in front of it are farther away. -/
def FirstNearest (near : Int) (ts : List Table) (t : Table) : Prop :=
  ∃ before after, ts = before ++ t :: after ∧ (∀ u ∈ before, t.distance near < u.distance near) ∧
    ∀ u ∈ after, t.distance near ≤ u.distance near

variable {near : Int} {t : Table} {ts : List Table}

theorem nearest_eq_none_iff : nearest near ts = none ↔ ts = [] := by
  cases ts with
  | nil => simp [nearest]
  | cons t ts =>
    simp only [nearest, reduceCtorEq, iff_false]
    split
    · exact Option.some_ne_none _
    · split <;> exact Option.some_ne_none _

theorem firstNearest_of_nearest (h : nearest near ts = some t) : FirstNearest near ts t := by
  induction ts generalizing t with
  | nil => cases h
  | cons u ts ih =>
    cases hr : nearest near ts with
    | none =>
      rw [nearest_eq_none_iff] at hr
      subst hr
      cases h
      exact ⟨[], [], rfl, by simp, by simp⟩
    | some v =>
      obtain ⟨before, after, rfl, farther, notNearer⟩ := ih hr
      simp only [nearest, hr] at h
      split at h
      · next nearer =>
        cases h
        exact ⟨u :: before, after, rfl, List.forall_mem_cons.mpr ⟨nearer, farther⟩, notNearer⟩
      · next within =>
        cases h
        refine ⟨[], _, rfl, by simp, fun w hw => ?_⟩
        rcases List.mem_append.mp hw with hw | hw
        · have := farther w hw
          omega
        · rcases List.mem_cons.mp hw with rfl | hw
          · omega
          · have := notNearer w hw
            omega

theorem nearest_of_firstNearest (h : FirstNearest near ts t) : nearest near ts = some t := by
  obtain ⟨before, after, rfl, farther, notNearer⟩ := h
  induction before with
  | nil =>
    cases hr : nearest near after with
    | none => simp only [List.nil_append, nearest, hr]
    | some v =>
      obtain ⟨_, _, rfl, _⟩ := firstNearest_of_nearest hr
      have within : ¬v.distance near < t.distance near := by
        have := notNearer v (List.mem_append_right _ List.mem_cons_self)
        omega
      simp only [List.nil_append, nearest, hr, within, ↓reduceIte]
  | cons u before ih =>
    obtain ⟨nearer, rest⟩ := List.forall_mem_cons.mp farther
    simp only [List.cons_append, nearest, ih rest, nearer, ↓reduceIte]

theorem nearest_eq_some_iff : nearest near ts = some t ↔ FirstNearest near ts t :=
  ⟨firstNearest_of_nearest, nearest_of_firstNearest⟩

/-- A table that is nearer than every other one is the nearest, wherever it stands. -/
theorem nearest_of_nearer (mem : t ∈ ts)
    (nearer : ∀ u ∈ ts, u ≠ t → t.distance near < u.distance near) : nearest near ts = some t := by
  obtain ⟨before, after, rfl, first⟩ := List.eq_append_cons_of_mem mem
  refine nearest_of_firstNearest ⟨before, after, rfl, fun u hu => ?_, fun u hu => ?_⟩
  · exact nearer u (List.mem_append_left _ hu) fun same => first (same ▸ hu)
  · by_cases same : u = t
    · exact Nat.le_of_eq (by rw [same])
    · exact Nat.le_of_lt (nearer u (List.mem_append_right _ (List.mem_cons_of_mem _ hu)) same)

/-- Among the tables that pass, whatever stands between them. -/
theorem firstNearest_filter_iff (p : Table → Bool) : FirstNearest near (ts.filter p) t ↔
    ∃ before after, ts = before ++ t :: after ∧ p t = true ∧
      (∀ u ∈ before, p u = true → t.distance near < u.distance near) ∧
      ∀ u ∈ after, p u = true → t.distance near ≤ u.distance near := by
  constructor
  · rintro ⟨front, back, split, farther, notNearer⟩
    obtain ⟨before, rest, rfl, rfl, kept⟩ := List.filter_eq_append_iff.mp split
    obtain ⟨skipped, after, rfl, dropped, passes, rfl⟩ := List.filter_eq_cons_iff.mp kept
    refine ⟨before ++ skipped, after, (List.append_assoc ..).symm, passes, fun u hu pu => ?_,
      fun u hu pu => notNearer u (List.mem_filter.mpr ⟨hu, pu⟩)⟩
    rcases List.mem_append.mp hu with hu | hu
    · exact farther u (List.mem_filter.mpr ⟨hu, pu⟩)
    · exact absurd pu (dropped u hu)
  · rintro ⟨before, after, rfl, passes, farther, notNearer⟩
    refine ⟨before.filter p, after.filter p, ?_, fun u hu => ?_, fun u hu => ?_⟩
    · rw [List.filter_append, List.filter_cons_of_pos passes]
    · obtain ⟨hu, pu⟩ := List.mem_filter.mp hu
      exact farther u hu pu
    · obtain ⟨hu, pu⟩ := List.mem_filter.mp hu
      exact notNearer u hu pu

/-- The table found is, of those that do not start at an excluded position, a nearest one, and all
in front of it are farther away. None is found exactly when there is none to choose from. -/
theorem tableNear_first_nearest (s : Snapshot) (near : Int) (exclude : List Int) :
    (tableNear s near exclude = none ↔ ∀ t ∈ tables s, t.start ∈ exclude) ∧
    ∀ t, tableNear s near exclude = some t ↔
      ∃ before after, tables s = before ++ t :: after ∧ t.start ∉ exclude ∧
        (∀ u ∈ before, u.start ∉ exclude → t.distance near < u.distance near) ∧
        ∀ u ∈ after, u.start ∉ exclude → t.distance near ≤ u.distance near := by
  have free (u : Table) : (!exclude.contains u.start) = true ↔ u.start ∉ exclude := by simp
  constructor
  · rw [tableNear, nearest_eq_none_iff, List.filter_eq_nil_iff]
    simp only [free, Decidable.not_not]
  · intro t
    rw [tableNear, nearest_eq_some_iff, firstNearest_filter_iff]
    simp only [free]

/-- An empty table, as an element of a document. -/
def emptyTable (start : Int) : Element where
  start := some start
  stop := some (start + 1)
  paragraph := none
  grid := some ⟨none, none, []⟩

/-- The nearest table is excluded; of the two next ones the one in front is found, although it starts
later. -/
theorem tableNear_equally_near : tableNear [emptyTable 20, emptyTable 30, emptyTable 10] 20 [20] =
    some ⟨30, 31, 0, 0, []⟩ :=
  ((tableNear_first_nearest _ 20 [20]).2 _).mpr
    ⟨[⟨20, 21, 0, 0, []⟩], [⟨10, 11, 0, 0, []⟩], rfl, by decide, by decide, by decide⟩

/-- The table that starts last in a document. -/
structure IsLast (s : Snapshot) (t : Table) : Prop where
  mem : t ∈ tables s
  last : ∀ u ∈ tables s, u ≠ t → u.start < t.start
  near : t.start ≤ farIndex

theorem IsLast.tableNear {s : Snapshot} (h : IsLast s t) : tableNear s farIndex [] = some t := by
  have all : (tables s).filter (fun u => !([] : List Int).contains u.start) = tables s :=
    List.filter_eq_self.mpr fun _ _ => rfl
  rw [Snapshot.tableNear, all]
  refine nearest_of_nearer h.mem fun u hu other => ?_
  have behind := h.last u hu other
  have near := h.near
  unfold Table.distance
  omega

end Docwright.Snapshot
