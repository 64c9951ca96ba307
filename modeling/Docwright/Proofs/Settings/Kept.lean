import Docwright.Settings

namespace Docwright.Settings

/-- A request with the environment at its time. It may differ from the one before in any way. -/
structure Turn where
  env : Environment
  request : Request

/-- The settings that are kept after some turns, the latest of which comes first. -/
def keptAfter : List Turn → Option Settings
  | [] => none
  | t :: past => (serve t.env (keptAfter past) t.request).2

/-- What a turn is answered with after others. -/
def Turn.answer (past : List Turn) (t : Turn) : Except Refusal Settings :=
  (serve t.env (keptAfter past) t.request).1

/-- No load has succeeded: every turn that asked for one was in an environment that is refused. -/
def Unloaded (past : List Turn) : Prop :=
  ∀ t ∈ past, t.request ≠ .fresh → ∃ r, load t.env = .error r

/-- The turn succeeds in a load: it reloads settings, or takes them when no load has succeeded
before. -/
def Loads (past : List Turn) (t : Turn) (s : Settings) : Prop :=
  load t.env = .ok s ∧ (t.request = .reload ∨ t.request = .current ∧ Unloaded past)

/-- The last successful load has read these settings. -/
inductive LastLoaded : List Turn → Settings → Prop where
  | now {past : List Turn} {t : Turn} {s : Settings} (loads : Loads past t s) :
    LastLoaded (t :: past) s
  | before {past : List Turn} {t : Turn} {s : Settings} (loaded : LastLoaded past s)
    (idle : ∀ s', ¬Loads past t s') : LastLoaded (t :: past) s

theorem unloaded_cons {past : List Turn} {t : Turn} :
    Unloaded (t :: past) ↔ Unloaded past ∧ ∀ s, ¬Loads past t s := by
  unfold Unloaded
  rw [List.forall_mem_cons, and_comm]
  refine and_congr_right fun unloaded => ?_
  change Unloaded past at unloaded
  unfold Loads
  cases read : load t.env with
  | error r => simp
  | ok s =>
    cases asked : t.request with
    | fresh | reload => simp
    | current => simp [unloaded]

theorem unloaded_or_lastLoaded (past : List Turn) : Unloaded past ∨ ∃ s, LastLoaded past s := by
  induction past with
  | nil => exact .inl (List.forall_mem_nil _)
  | cons t past ih =>
    by_cases loads : ∃ s, Loads past t s
    · obtain ⟨s, loads⟩ := loads
      exact .inr ⟨s, .now loads⟩
    · have idle : ∀ s, ¬Loads past t s := not_exists.mp loads
      rcases ih with unloaded | ⟨s, loaded⟩
      · exact .inl (unloaded_cons.mpr ⟨unloaded, idle⟩)
      · exact .inr ⟨s, .before loaded idle⟩

/-- What a turn loads is kept from then on. -/
theorem keptAfter_of_loads {past : List Turn} {t : Turn} {s : Settings} (h : Loads past t s)
    (kept : Unloaded past → keptAfter past = none) : keptAfter (t :: past) = some s := by
  obtain ⟨read, asked | ⟨asked, unloaded⟩⟩ := h
  · simp only [keptAfter, asked, serve, read]
  · simp only [keptAfter, asked, serve, kept unloaded, read]

/-- A turn that loads nothing leaves what is kept as it was. -/
theorem keptAfter_of_not_loads {past : List Turn} {t : Turn} (h : ∀ s, ¬Loads past t s)
    (kept : keptAfter past = none → Unloaded past) : keptAfter (t :: past) = keptAfter past := by
  rw [keptAfter]
  cases asked : t.request with
  | fresh => rfl
  | reload =>
    cases read : load t.env with
    | error r => simp only [serve, read]
    | ok s => exact absurd ⟨read, .inl asked⟩ (h s)
  | current =>
    cases found : keptAfter past with
    | some s => rfl
    | none =>
      cases read : load t.env with
      | error r => simp only [serve, read]
      | ok s => exact absurd ⟨read, .inr ⟨asked, kept found⟩⟩ (h s)

theorem keptAfter_of_unloaded {past : List Turn} (h : Unloaded past) : keptAfter past = none := by
  induction past with
  | nil => rfl
  | cons t past ih =>
    obtain ⟨unloaded, idle⟩ := unloaded_cons.mp h
    rw [keptAfter_of_not_loads idle fun _ => unloaded, ih unloaded]

theorem keptAfter_of_lastLoaded {past : List Turn} {s : Settings} (h : LastLoaded past s) :
    keptAfter past = some s := by
  induction h with
  | now loads => exact keptAfter_of_loads loads keptAfter_of_unloaded
  | before _ idle ih =>
    refine (keptAfter_of_not_loads idle fun absent => ?_).trans ih
    cases ih.symm.trans absent

theorem lastLoaded_iff {past : List Turn} {s : Settings} :
    LastLoaded past s ↔ keptAfter past = some s := by
  refine ⟨keptAfter_of_lastLoaded, fun kept => ?_⟩
  rcases unloaded_or_lastLoaded past with unloaded | ⟨s', loaded⟩
  · rw [keptAfter_of_unloaded unloaded] at kept
    cases kept
  · rw [keptAfter_of_lastLoaded loaded] at kept
    cases kept
    exact loaded

/-- A request fails only for what is wrong with its own environment, and changes nothing then. -/
theorem serve_error {env : Environment} {kept : Option Settings} {q : Request} {r : Refusal}
    (h : (serve env kept q).1 = .error r) : load env = .error r ∧ (serve env kept q).2 = kept := by
  cases q with
  | fresh => exact ⟨h, rfl⟩
  | current =>
    cases kept with
    | some s => cases h
    | none =>
      cases read : load env with
      | ok s =>
        simp only [serve, read] at h
        cases h
      | error r' =>
        simp only [serve, read] at h ⊢
        exact ⟨h, trivial⟩
  | reload =>
    cases read : load env with
    | ok s =>
      simp only [serve, read] at h
      cases h
    | error r' =>
      simp only [serve, read] at h ⊢
      exact ⟨h, trivial⟩

/-- Settings that are read for themselves make no difference to what is kept. -/
theorem keptAfter_filter_fresh (past : List Turn) :
    keptAfter (past.filter (·.request ≠ .fresh)) = keptAfter past := by
  induction past with
  | nil => rfl
  | cons t past ih =>
    cases asked : t.request with
    | fresh =>
      rw [List.filter_cons_of_neg (by simp [asked]), ih, keptAfter, asked]
      rfl
    | current | reload =>
      rw [List.filter_cons_of_pos (by simp [asked]), keptAfter, ih]
      rfl

/-- The current settings are those of the last successful load, and are loaded when there is none. A
turn that fails leaves what is kept as it was: the next one is answered as if it had not been. Turns
that read settings for themselves may be left out altogether. -/
theorem kept_since_last_load (past : List Turn) (env : Environment) :
    (∀ s, LastLoaded past s → Turn.answer past ⟨env, .current⟩ = .ok s ∧
      LastLoaded (⟨env, .current⟩ :: past) s) ∧
    ((¬∃ s, LastLoaded past s) → Unloaded past ∧
      Turn.answer past ⟨env, .current⟩ = load env ∧
      ∀ s, load env = .ok s → LastLoaded (⟨env, .current⟩ :: past) s) ∧
    (Turn.answer past ⟨env, .reload⟩ = load env ∧
      ∀ s, load env = .ok s → LastLoaded (⟨env, .reload⟩ :: past) s) ∧
    (∀ request r, Turn.answer past ⟨env, request⟩ = .error r → load env = .error r ∧
      keptAfter (⟨env, request⟩ :: past) = keptAfter past ∧
      ∀ next, Turn.answer (⟨env, request⟩ :: past) next = Turn.answer past next) ∧
    ∀ next, Turn.answer (past.filter (·.request ≠ .fresh)) next = Turn.answer past next := by
  have reloaded (s : Settings) (read : load env = .ok s) : LastLoaded (⟨env, .reload⟩ :: past) s :=
    .now ⟨read, .inl rfl⟩
  refine ⟨fun s loaded => ?_, fun never => ?_, ⟨?_, reloaded⟩, fun request r failed => ?_,
    fun next => ?_⟩
  · have kept := keptAfter_of_lastLoaded loaded
    rw [lastLoaded_iff]
    simp only [Turn.answer, keptAfter, kept, serve, and_self]
  · have unloaded := (unloaded_or_lastLoaded past).resolve_right never
    have kept := keptAfter_of_unloaded unloaded
    refine ⟨unloaded, ?_, fun s read => .now ⟨read, .inr ⟨rfl, unloaded⟩⟩⟩
    simp only [Turn.answer, kept, serve]
    cases load env <;> rfl
  · simp only [Turn.answer, serve]
    cases load env <;> rfl
  · obtain ⟨refused, kept⟩ := serve_error failed
    have same : keptAfter (⟨env, request⟩ :: past) = keptAfter past := kept
    exact ⟨refused, same, fun next => by rw [Turn.answer, same, Turn.answer]⟩
  · rw [Turn.answer, keptAfter_filter_fresh, Turn.answer]

def patient : Environment :=
  fun name => if name = attemptsName then some "5" else none

def broken : Environment :=
  fun name => if name = attemptsName then some "x" else none

/-- A first request fails, the next one loads, and from then on the environment is broken. -/
def changing : List Turn :=
  [⟨broken, .fresh⟩, ⟨broken, .reload⟩, ⟨patient, .current⟩, ⟨broken, .current⟩]

theorem changing_kept_since_last_load : ∃ s, load patient = .ok s ∧
    (¬∃ s', LastLoaded [⟨broken, .current⟩] s') ∧
    Turn.answer [⟨broken, .current⟩] ⟨patient, .current⟩ = load patient ∧
    LastLoaded changing s ∧ Turn.answer changing ⟨broken, .current⟩ = .ok s ∧
    Turn.answer changing ⟨broken, .reload⟩ = .error (.notInteger attemptsName "x") ∧
    keptAfter (⟨broken, .reload⟩ :: changing) = keptAfter changing := by
  have refused : load broken = .error (.notInteger attemptsName "x") := by with_unfolding_all rfl
  obtain ⟨s, read⟩ : ∃ s, load patient = .ok s := ⟨_, by with_unfolding_all rfl⟩
  have first : ¬∃ s', LastLoaded [⟨broken, .current⟩] s' := by
    simp [lastLoaded_iff, keptAfter, serve, refused]
  have loaded : LastLoaded changing s := by
    simp [lastLoaded_iff, changing, keptAfter, serve, refused, read]
  have failed : Turn.answer changing ⟨broken, .reload⟩ = .error (.notInteger attemptsName "x") := by
    rw [(kept_since_last_load changing broken).2.2.1.1, refused]
  exact ⟨s, read, first, ((kept_since_last_load _ patient).2.1 first).2.1, loaded,
    ((kept_since_last_load changing broken).1 s loaded).1, failed,
    ((kept_since_last_load changing broken).2.2.2.1 .reload _ failed).2.1⟩

end Docwright.Settings
