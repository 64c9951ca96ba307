import Docwright.Snapshot.Section

namespace Docwright.Snapshot

/-- Elements side by side from one position to another, none of them empty. Only one that starts at
zero may leave out where it starts. -/
inductive Tiles : Int → Snapshot → Int → Prop where
  | nil (position : Int) : Tiles position [] position
  | cons {start next stop : Int} {e : Element} {es : Snapshot} (first : e.start.getD 0 = start)
    (last : e.stop = some next) (filled : start < next) (rest : Tiles next es stop) :
    Tiles start (e :: es) stop

variable {start stop : Int} {s : Snapshot}

theorem Tiles.le (tiles : Tiles start s stop) : start ≤ stop := by
  induction tiles with
  | nil => exact Int.le_refl _
  | cons _ _ filled _ ih => exact Int.le_trans (Int.le_of_lt filled) ih

theorem Tiles.eq_nil (tiles : Tiles start s start) : s = [] := by
  cases tiles with
  | nil => rfl
  | cons _ _ filled rest =>
    have := rest.le
    omega

theorem tiles_append {t : Snapshot} :
    Tiles start (s ++ t) stop ↔ ∃ middle, Tiles start s middle ∧ Tiles middle t stop := by
  constructor
  · intro tiles
    induction s generalizing start with
    | nil => exact ⟨start, .nil start, tiles⟩
    | cons e es ih =>
      cases tiles with
      | cons first last filled rest =>
        obtain ⟨middle, here, there⟩ := ih rest
        exact ⟨middle, .cons first last filled here, there⟩
  · rintro ⟨middle, here, there⟩
    induction here with
    | nil => exact there
    | cons first last filled _ ih => exact .cons first last filled (ih there)

theorem Tiles.getLast_stop (tiles : Tiles start s stop) (filled : s ≠ []) :
    s.getLast?.bind (·.stop) = some stop := by
  induction tiles with
  | nil => exact absurd rfl filled
  | @cons _ _ _ e es _ last _ rest ih =>
    cases es with
    | nil =>
      cases rest
      exact last
    | cons f fs =>
      rw [List.getLast?_cons_cons]
      exact ih (List.cons_ne_nil f fs)

/-- A snapshot of a document ends where appended content lands, before the last position. -/
theorem Tiles.endIndex {n : Nat} (tiles : Tiles start s (n + 1)) (filled : s ≠ []) (positive : 0 < n) :
    s.endIndex = n := by
  obtain ⟨e, last, stop⟩ := Option.bind_eq_some_iff.mp (tiles.getLast_stop filled)
  simp only [Snapshot.endIndex, last, stop, Option.getD_some]
  omega

theorem section?_positions {e : Element} {x : Section} (headed : section? e = some x) :
    x.start = e.start.getD 0 ∧ x.stop = e.stop.getD 0 := by
  obtain ⟨paragraph, _, headed⟩ := Option.bind_eq_some_iff.mp headed
  obtain ⟨level, _, headed⟩ := Option.bind_eq_some_iff.mp headed
  cases headed
  exact ⟨rfl, rfl⟩

theorem sections_append (s t : Snapshot) : sections (s ++ t) = sections s ++ sections t :=
  List.filterMap_append

theorem sections_cons (e : Element) (es : Snapshot) :
    sections (e :: es) = (section? e).toList ++ sections es := by
  cases headed : section? e <;> simp [sections, headed]

/-- A heading lies inside of the snapshot. -/
theorem Tiles.section_inside (tiles : Tiles start s stop) {x : Section} (h : x ∈ sections s) :
    start ≤ x.start ∧ x.start < x.stop ∧ x.stop ≤ stop := by
  induction tiles with
  | nil => cases h
  | @cons start next stop e es first last filled rest ih =>
    have behind := rest.le
    rw [sections_cons] at h
    rcases List.mem_append.mp h with here | later
    · obtain ⟨starts, stops⟩ := section?_positions (Option.mem_toList.mp here)
      rw [last, Option.getD_some] at stops
      omega
    · obtain ⟨lower, order, upper⟩ := ih later
      omega

theorem Tiles.sections_apart (tiles : Tiles start s stop) :
    (sections s).Pairwise fun x y => x.stop ≤ y.start := by
  induction tiles with
  | nil => exact List.Pairwise.nil
  | @cons start next stop e es first last filled rest ih =>
    rw [sections_cons]
    cases headed : section? e with
    | none => exact ih
    | some x =>
      refine List.pairwise_cons.mpr ⟨fun y hy => ?_, ih⟩
      have stops := (section?_positions headed).2
      rw [last, Option.getD_some] at stops
      have lower := (rest.section_inside hy).1
      omega

/-- Where the first heading starts, or where the document ends if there is none. -/
def nextStart (s : Snapshot) (stop : Int) : Int :=
  ((sections s).head?.map (·.start)).getD stop

theorem Tiles.nextStart_bounds (tiles : Tiles start s stop) {n : Int} (last : stop = n + 1) :
    nextStart s n ≤ n ∧ (start ≤ n → start ≤ nextStart s n) ∧
      ∀ x ∈ sections s, nextStart s n ≤ x.start := by
  have apart := tiles.sections_apart
  have inside := fun x => tiles.section_inside (x := x)
  unfold nextStart
  generalize sections s = xs at apart inside
  cases xs with
  | nil =>
    refine ⟨Int.le_refl n, fun h => h, ?_⟩
    intro x hx
    cases hx
  | cons y ys =>
    obtain ⟨lower, order, upper⟩ := inside y List.mem_cons_self
    simp only [List.head?_cons, Option.map_some, Option.getD_some]
    refine ⟨by omega, fun _ => lower, ?_⟩
    intro x hx
    rcases List.mem_cons.mp hx with rfl | later
    · exact Int.le_refl _
    · have := List.rel_of_pairwise_cons apart later
      omega

end Docwright.Snapshot
