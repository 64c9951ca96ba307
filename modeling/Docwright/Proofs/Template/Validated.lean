import Docwright.Proofs.Json.Unread
import Docwright.Proofs.Template.Created
import Docwright.Proofs.Template.Drafts
import Docwright.Proofs.Template.Reasons
import Docwright.Proofs.Template.WellFormed

namespace Docwright.Template

open Edit Replay Table Checked

/-- Reading a value and compiling the template that it describes. -/
def compileValue (v : Json) (start : Int) : Except Failure Compiled := do
  (← Draft.ofJson v).compile start

/-- The value is refused as a template, with reasons. -/
def Refuses (outcome : Except Failure Compiled) : Prop :=
  ∃ message errors, outcome = .error (.template message errors) ∧ errors ≠ []

/-- There is a batch that the document will take, and a job for each table that it inserts. -/
def Delivers (outcome : Except Failure Compiled) : Prop :=
  ∃ c, outcome = .ok c ∧ (∀ op ∈ c.operations, op.WellFormed) ∧
    List.Forall₂ Asks c.jobs (tableEdits 0 c.operations)

/-- The value is a text with an integer that is too long to be read. -/
def HoldsLongInteger (v : Json) (digits : Nat) : Prop :=
  ∃ s, v = .str s ∧ Json.ofText s = .error (.longInteger digits)

/-- The value is a text that is accepted as a template, and has an unpaired surrogate where something
is inserted. -/
def HoldsUnpaired (v : Json) : Prop :=
  ∃ t, Draft.ofJson v = .ok ⟨t, true⟩ ∧ InsertsUnpaired t

/-- Why a value is not accepted: it holds a long integer, or there are findings. -/
inductive Unaccepted (v : Json) : Failure → Prop where
  | long {digits : Nat} (long : HoldsLongInteger v digits) :
    Unaccepted v (.refused (.longInteger digits))
  | refused {message : String} {errors : List String} (reasons : errors ≠ []) :
    Unaccepted v (.template message errors)

theorem unaccepted_of_findings {v value : Json} {findings : List Finding}
    (h : (readTemplate value).toExcept = .error findings) :
    Unaccepted v (Invalid.rules findings).toFailure := by
  refine .refused fun none => ?_
  have empty : findings = [] := List.map_eq_nil_iff.mp none
  cases read : readTemplate value with
  | ok t =>
    rw [read] at h
    cases h
  | refused found =>
    rw [read] at h
    cases h
    exact reasoned_readTemplate value (empty ▸ read)

theorem unaccepted_of_rules {v value : Json} {why : Invalid}
    (h : (readTemplate value).toExcept.mapError Invalid.rules = .error why) :
    Unaccepted v why.toFailure := by
  cases read : (readTemplate value).toExcept with
  | ok t =>
    rw [read] at h
    cases h
  | error findings =>
    rw [read] at h
    cases h
    exact unaccepted_of_findings read

theorem unaccepted_of_ofJson {v : Json} {why : Invalid} (h : Template.ofJson v = .error why)
    (paired : ∀ value, why ≠ .unpaired value) : Unaccepted v why.toFailure := by
  cases v with
  | str s =>
    cases given : Json.ofText s with
    | ok value =>
      simp only [Template.ofJson, given] at h
      exact unaccepted_of_rules h
    | error unread =>
      simp only [Template.ofJson, given] at h
      cases h
      cases unread with
      | syntaxError message => exact .refused (List.cons_ne_nil _ _)
      | longInteger digits => exact .long ⟨s, rfl, given⟩
      | unpaired value => exact absurd rfl (paired value)
  | null | bool | num | arr | obj =>
    simp only [Template.ofJson, pure_bind] at h
    exact unaccepted_of_rules h

theorem Draft.unaccepted {v : Json} {f : Failure} (h : Draft.ofJson v = .error f) :
    Unaccepted v f := by
  unfold Draft.ofJson at h
  split at h
  · cases h
  · split at h
    · cases h
    · next findings read =>
      cases h
      exact unaccepted_of_findings read
  · next why paired given =>
    cases h
    exact unaccepted_of_ofJson given paired

theorem draft_of_long {v : Json} {digits : Nat} (h : HoldsLongInteger v digits) :
    Draft.ofJson v = .error (.refused (.longInteger digits)) := by
  obtain ⟨s, rfl, unread⟩ := h
  simp only [Draft.ofJson, Template.ofJson, unread]
  rfl

theorem compileValue_of_long {v : Json} {digits : Nat} (h : HoldsLongInteger v digits)
    (start : Int) : compileValue v start = .error (.refused (.longInteger digits)) := by
  rw [compileValue, draft_of_long h]
  rfl

theorem delivers_of_read {value : Json} {t : Template} (read : readTemplate value = .ok t)
    (warnings : List String) (start : Int) :
    Delivers (.ok ⟨batch start (passages t), jobs t, warnings⟩) := by
  have formed : ∀ p ∈ passages t, p.WellFormed := by
    rw [passages_eq_map]
    intro _ hp
    obtain ⟨p, mem, rfl⟩ := List.mem_map.mp hp
    exact (wasRead_of_mem_pieces read p mem).wellFormed
  exact ⟨_, rfl, wellFormed_of_mem_batch formed, serves_jobs t 0 start⟩

section

variable {v : Json} {d : Draft} (accepted : Draft.ofJson v = .ok d) {start : Int} (first : 1 ≤ start)

include accepted first

theorem Draft.delivers (measured : ¬(d.marked = true ∧ InsertsUnpaired d.template)) :
    Delivers (compileValue v start) := by
  obtain ⟨value, read⟩ := Draft.exists_readTemplate accepted
  obtain ⟨warnings, compiled⟩ := compile_eq_batch (proper_readTemplate read) first
  have outcome : compileValue v start =
      .ok ⟨batch start (passages d.template), jobs d.template, warnings⟩ := by
    rw [compileValue, accepted]
    refine (Draft.compile_eq compiled).trans ?_
    rw [(checkEncodable_draft rfl).mpr measured]
    rfl
  rw [outcome]
  exact delivers_of_read read warnings start

theorem Draft.unencodable (unpaired : d.marked = true ∧ InsertsUnpaired d.template) :
    ∃ f, f.Unencodable ∧ compileValue v start = .error f := by
  obtain ⟨warnings, compiled⟩ := compile_eq_batch (Draft.proper accepted) first
  have outcome : compileValue v start = d.compile start := by
    rw [compileValue, accepted]
    rfl
  rw [outcome, Draft.compile_eq compiled]
  cases measured : checkEncodable d.marked
      (Compiled.texts ⟨batch start (passages d.template), jobs d.template, warnings⟩) with
  | ok _ => exact absurd unpaired ((checkEncodable_draft rfl).mp measured)
  | error f => exact ⟨f, (unencodable_of_checkEncodable measured).2, rfl⟩

end

/-- Any value that holds neither a long integer nor an unpaired surrogate is refused with reasons, or
delivers. -/
theorem settled_of_sound {v : Json} (short : ∀ digits, ¬HoldsLongInteger v digits)
    (paired : ¬HoldsUnpaired v) {start : Int} (first : 1 ≤ start) :
    Refuses (compileValue v start) ∨ Delivers (compileValue v start) := by
  cases given : Draft.ofJson v with
  | ok d =>
    refine .inr (Draft.delivers given first ?_)
    rintro ⟨marked, inserts⟩
    exact paired ⟨d.template, marked ▸ given, inserts⟩
  | error f =>
    have outcome : compileValue v start = .error f := by
      rw [compileValue, given]
      rfl
    rw [outcome]
    cases Draft.unaccepted given with
    | long long => exact absurd long (short _)
    | refused reasons => exact .inl ⟨_, _, rfl, reasons⟩

theorem not_settled_of_error {f : Failure} (other : ∀ message errors, f ≠ .template message errors) :
    ¬(Refuses (.error f) ∨ Delivers (.error f)) := by
  rintro (⟨message, errors, refused, _⟩ | ⟨_, delivered, _⟩)
  · exact other message errors (Except.error.inj refused)
  · cases delivered

/-- Every value, and every position in a document: the value is refused as a template with reasons,
or it compiles to a well-formed batch with a job for each table, in their order and of their size,
if and only if it is no text with an integer of more digits than can be read, and no text with an
unpaired surrogate where the template inserts something. The former ends in the refusal of that
integer, the latter in that of a surrogate. -/
theorem compileValue_settled_iff (v : Json) (start : Int) (first : 1 ≤ start) :
    (Refuses (compileValue v start) ∨ Delivers (compileValue v start) ↔
      (∀ digits, ¬HoldsLongInteger v digits) ∧ ¬HoldsUnpaired v) ∧
    (∀ digits, HoldsLongInteger v digits → Number.maxDigits < digits ∧
      compileValue v start = .error (.refused (.longInteger digits))) ∧
    (HoldsUnpaired v → ∃ f, f.Unencodable ∧ compileValue v start = .error f) := by
  have unencodable : HoldsUnpaired v → ∃ f, f.Unencodable ∧ compileValue v start = .error f := by
    rintro ⟨t, given, inserts⟩
    exact Draft.unencodable given first ⟨rfl, inserts⟩
  refine ⟨⟨fun settled => ⟨fun digits long => ?_, fun unpaired => ?_⟩, fun sound => ?_⟩,
    fun digits long => ⟨?_, compileValue_of_long long start⟩, unencodable⟩
  · rw [compileValue_of_long long start] at settled
    exact not_settled_of_error (by rintro _ _ ⟨⟩) settled
  · obtain ⟨_, ⟨_, _, _, rfl⟩, outcome⟩ := unencodable unpaired
    rw [outcome] at settled
    exact not_settled_of_error (by rintro _ _ ⟨⟩) settled
  · exact settled_of_sound sound.1 sound.2 first
  · obtain ⟨s, _, unread⟩ := long
    exact Json.long_of_ofText unread

/-- A template with tables and other content delivers, and half a list is refused. -/
theorem mixed_settled : Delivers (compileValue mixed 1) ∧ Refuses (compileValue (.str "[1") 1) := by
  constructor
  · have short : ∀ digits, ¬HoldsLongInteger mixed digits := by
      rintro digits ⟨s, text, _⟩
      cases text
    obtain ⟨t, read⟩ : ∃ t, Template.ofJson mixed = .ok t := ⟨_, by with_unfolding_all rfl⟩
    have accepted := Draft.ofJson_eq read
    have paired : ¬HoldsUnpaired mixed := by
      rintro ⟨t', marked, _⟩
      cases accepted.symm.trans marked
    obtain ⟨_, _, refused, _⟩ | delivered :=
      (compileValue_settled_iff mixed 1 (by decide)).1.mpr ⟨short, paired⟩
    · obtain ⟨_, delivered, _⟩ := Draft.delivers accepted (Int.le_refl 1) nofun
      cases delivered.symm.trans refused
    · exact delivered
  · obtain ⟨message, unread⟩ : ∃ message, Json.ofText "[1" = .error (.syntaxError message) :=
      ⟨_, by with_unfolding_all rfl⟩
    have unaccepted : ∃ message errors,
        Draft.ofJson (.str "[1") = .error (.template message errors) := by
      simp only [Draft.ofJson, Template.ofJson, unread]
      exact ⟨_, _, rfl⟩
    obtain ⟨_, _, unaccepted⟩ := unaccepted
    have short : ∀ digits, ¬HoldsLongInteger (.str "[1") digits := by
      rintro digits ⟨_, ⟨⟩, long⟩
      cases unread.symm.trans long
    have paired : ¬HoldsUnpaired (.str "[1") := by
      rintro ⟨t, accepted, _⟩
      cases unaccepted.symm.trans accepted
    obtain refused | ⟨_, delivered, _⟩ :=
      (compileValue_settled_iff (.str "[1") 1 (by decide)).1.mpr ⟨short, paired⟩
    · exact refused
    · rw [compileValue, unaccepted] at delivered
      cases delivered

/-- A template whose title is an integer of 4301 digits. -/
def longTitle : Json :=
  .str (Json.onesTitle 4301)

/-- It is no template, but it is not refused as one. -/
theorem longTitle_not_settled :
    compileValue longTitle 1 = .error (.refused (.longInteger 4301)) ∧
      ¬Refuses (compileValue longTitle 1) ∧ ¬Delivers (compileValue longTitle 1) := by
  have long : HoldsLongInteger longTitle 4301 := ⟨_, rfl, Json.ofText_onesTitle (by decide)⟩
  have outcome := compileValue_of_long long 1
  rw [outcome]
  refine ⟨rfl, ?_, ?_⟩
  · rintro ⟨_, _, refused, _⟩
    cases refused
  · rintro ⟨_, delivered, _⟩
    cases delivered

/-- A template whose title is an unpaired surrogate. -/
def brokenTitle : Json :=
  .str "\x7b\"title\":\x7b\"text\":\"\\ud800\"\x7d\x7d"

theorem brokenTitle_holdsUnpaired : HoldsUnpaired brokenTitle := by
  have held : (Draft.ofJson brokenTitle).toOption.any (fun d =>
      d.marked && decide (InsertsUnpaired d.template)) = true := by decide +kernel
  cases accepted : Draft.ofJson brokenTitle with
  | error f =>
    rw [accepted] at held
    cases held
  | ok d =>
    obtain ⟨t, marked⟩ := d
    rw [accepted] at held
    obtain ⟨rfl, inserts⟩ : marked = true ∧ InsertsUnpaired t := by
      simpa [Except.toOption] using held
    exact ⟨t, accepted, inserts⟩

end Docwright.Template
