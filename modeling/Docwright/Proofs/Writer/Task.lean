import Docwright.Proofs.Writer.Faithful
import Docwright.Proofs.Writer.Phases

/-!
All that a writer can be asked for, and every way in which it may go (`Task.course`). A task is
declined before it makes a call, or its calls are relayed: it ends with the first one that fails.
Sections that are not found, answers that cannot be read and the second phase of writing tables are
the only other ways to fail.
-/

namespace Docwright.Writer

open Edit Replay Style

variable {σ α β : Type}

/-! ## Relayed calls -/

/-- All calls have been answered and there is a result, or the last one has failed, and its failure
is the outcome. -/
inductive Relayed : List Exchange → Except Failure α → Prop where
  | answered {xs : List Exchange} (all : ∀ x ∈ xs, x.Answered) (a : α) : Relayed xs (.ok a)
  | failed {xs : List Exchange} {x : Exchange} {f : Failure} (before : ∀ y ∈ xs, y.Answered)
    (failed : x.answer = .error f) : Relayed (xs ++ [x]) (.error f)

theorem Relayed.behind {xs ys : List Exchange} {r : Except Failure α} (h : Relayed ys r)
    (before : ∀ x ∈ xs, x.Answered) : Relayed (xs ++ ys) r := by
  cases h with
  | answered all a => exact .answered (List.forall_mem_append.mpr ⟨before, all⟩) a
  | failed before' failed =>
    rw [← List.append_assoc]
    exact .failed (List.forall_mem_append.mpr ⟨before, before'⟩) failed

theorem Relayed.map {xs : List Exchange} {r : Except Failure α} (h : Relayed xs r) (g : α → β) :
    Relayed xs (g <$> r) := by
  cases h with
  | answered all a => exact .answered all (g a)
  | failed before failed => exact .failed before failed

namespace Action

/-- Nothing but its calls can make the action fail. -/
def Relays (a : Action σ α) : Prop :=
  ∀ s, ∃ r t xs, a s = (r, t) ∧ s.Makes t xs ∧ Relayed xs r

theorem relays_pure (a : α) : (pure a : Action σ α).Relays :=
  fun s => ⟨_, s, [], rfl, .none s, .answered (List.forall_mem_nil _) a⟩

theorem Relays.bind {x : Action σ α} {f : α → Action σ β} (hx : x.Relays)
    (hf : ∀ a, (f a).Relays) : (x >>= f).Relays := by
  intro s
  obtain ⟨r, t, xs, run, made, relayed⟩ := hx s
  cases relayed with
  | failed before failed => exact ⟨_, t, _, bind_of_error run f, made, .failed before failed⟩
  | answered all a =>
    obtain ⟨r, u, ys, run', made', relayed'⟩ := hf a t
    exact ⟨r, u, xs ++ ys, (bind_of_ok run f).trans run', made.trans made', relayed'.behind all⟩

theorem Relays.map {x : Action σ α} (hx : x.Relays) (g : α → β) : (g <$> x).Relays :=
  hx.bind fun a => relays_pure (g a)

theorem map_eq {x : Action σ α} {s t : Session σ} {r : Except Failure α} (run : x s = (r, t))
    (g : α → β) : (g <$> x) s = (g <$> r, t) := by
  cases r with
  | ok a => exact bind_of_ok run _
  | error f => exact bind_of_error run _

/-- The action is declined at once, for a reason of some kind, or nothing but its calls can make it
fail. -/
def Guarded (declines : Failure → Prop) (a : Action σ α) : Prop :=
  (∃ f, declines f ∧ a = Action.fail f) ∨ a.Relays

theorem guarded_settled {declines : Failure → Prop} {checked : Except Failure α}
    {f : α → Action σ β} (declined : ∀ e, checked = .error e → declines e)
    (passed : ∀ a, checked = .ok a → (f a).Guarded declines) :
    (Action.settled checked >>= f).Guarded declines := by
  cases checked with
  | error e => exact .inl ⟨e, declined e rfl, rfl⟩
  | ok a => exact passed a rfl

theorem Guarded.map {declines : Failure → Prop} {a : Action σ α} (h : a.Guarded declines)
    (g : α → β) : (g <$> a).Guarded declines := by
  rcases h with ⟨f, declined, rfl⟩ | relays
  · exact .inl ⟨f, declined, rfl⟩
  · exact .inr (relays.map g)

end Action

section

variable (w : Writer σ) (id : DocumentId)

theorem relays_perform (operation : String) (call : Call) : (w.perform operation call).Relays := by
  intro s
  obtain ⟨x, t, run, made, _⟩ := perform_makes w operation call s
  cases ha : x.answer with
  | ok v =>
    rw [ha] at run
    exact ⟨_, t, [x], run, made, .answered (List.forall_mem_singleton.mpr ⟨v, ha⟩) v⟩
  | error f =>
    rw [ha] at run
    exact ⟨_, t, [] ++ [x], run, made, .failed (List.forall_mem_nil _) ha⟩

theorem relays_submit (ops : List Operation) (operation : String) :
    (w.submit id ops operation).Relays := by
  unfold submit
  split
  · exact Action.relays_pure _
  · exact relays_perform w operation _

theorem relays_submitEdits (operation : String) {edits : Except Refusal (List Operation)}
    (compiled : ∃ ops, edits = .ok ops) : (w.submitEdits id operation edits).Relays := by
  obtain ⟨ops, rfl⟩ := compiled
  rw [submitEdits_ok]
  exact (relays_submit w id ops operation).bind fun _ => Action.relays_pure _

/-- What is done at the end of the document, wherever that is. -/
theorem relays_atEnd {next : Int → Action σ α} (relays : ∀ stop, 1 ≤ stop → (next stop).Relays) :
    (w.endOf id >>= next).Relays := by
  rw [endOf_bind]
  exact (relays_perform w _ _).bind fun document => relays _ (one_le_endIndex _)

theorem relays_append (operation : String) {build : Builder → Except Refusal Builder}
    (builds : ∀ b, ∃ built, build b = .ok built) : (w.append id operation build).Relays := by
  refine relays_atEnd w id fun stop first => relays_submitEdits w id operation ?_
  obtain ⟨built, h⟩ := builds ⟨stop, []⟩
  exact ⟨_, editsAt_eq first build h⟩

/-- A call whose answer is read before anything else is done. -/
theorem perform_read_cases (operation : String) (call : Call) (read : Json → Except Failure α)
    {next : α → Action σ β} (relays : ∀ a, (next a).Relays) (s : Session σ) :
    (∃ r t xs, (w.perform operation call >>= fun v => .settled (read v) >>= next) s = (r, t) ∧
      s.Makes t xs ∧ Relayed xs r) ∨
    ∃ x t v f, (w.perform operation call >>= fun v => .settled (read v) >>= next) s =
      (.error f, t) ∧ s.Makes t [x] ∧ x.call = call ∧ x.answer = .ok v ∧ read v = .error f := by
  obtain ⟨x, t, run, made, called⟩ := perform_makes w operation call s
  cases answer : x.answer with
  | error f =>
    rw [answer] at run
    exact .inl ⟨_, t, [] ++ [x], Action.bind_of_error run _, made,
      .failed (List.forall_mem_nil _) answer⟩
  | ok v =>
    rw [answer] at run
    rw [Action.bind_of_ok run]
    cases found : read v with
    | error f => exact .inr ⟨x, t, v, f, rfl, made, called, answer, found⟩
    | ok a =>
      obtain ⟨r, u, ys, run', made', relayed⟩ := relays a t
      have answered : ∀ y ∈ [x], y.Answered := List.forall_mem_singleton.mpr ⟨v, answer⟩
      exact .inl ⟨r, u, [x] ++ ys, run', made.trans made', relayed.behind answered⟩

end

/-! ## Tasks -/

inductive Task where
  | fetch
  | submit (ops : List Operation) (operation : String)
  | send (requests : List Json) (operation : String)
  | edit (c : Editing)
  | write (c : Writing)
  | replaceSection (heading content : String)
  | sendGiven (given : Json)
  | formatParagraphs (start stop : Int) (alignment : String) (format : ParagraphFormat)
  | replaceAll (find replacement : String) (matchCase : Bool)
  | create (title content : String)

/-- What a task brings back. -/
inductive Result where
  | answer (v : Json)
  | update (u : Update)
  | creation (c : Creation)

namespace Task

def perform (w : Writer σ) (id : DocumentId) : Task → Action σ Result
  | .fetch => .answer <$> w.fetch id
  | .submit ops operation => .answer <$> w.submit id ops operation
  | .send requests operation => .answer <$> w.send id requests operation
  | .edit c => .update <$> c.perform w id
  | .write c => .update <$> c.append w id
  | .replaceSection heading content => .update <$> w.replaceSection id heading content
  | .sendGiven given => .update <$> w.sendGiven id given
  | .formatParagraphs start stop alignment format =>
    .update <$> w.formatParagraphs id start stop alignment format
  | .replaceAll find replacement matchCase => .update <$> w.replaceAll id find replacement matchCase
  | .create title content => .creation <$> w.create title content

/-- The value that a task is given to read. -/
def given? : Task → Option Json
  | .write (.template given) | .sendGiven given => some given
  | _ => none

/-- The task is given a text with an integer that is too long to be read. -/
def HoldsLongInteger (c : Task) (digits : Nat) : Prop :=
  ∃ given, c.given? = some given ∧ Template.HoldsLongInteger given digits

def Declines (c : Task) (f : Failure) : Prop :=
  Unfit f ∨ ∃ digits, c.HoldsLongInteger digits ∧ f = .refused (.longInteger digits)

theorem declines_of_declined {c : Task} {given : Json} (reads : c.given? = some given) {f : Failure}
    (h : Declined given f) : c.Declines f :=
  h.imp_right fun ⟨digits, long, same⟩ => ⟨digits, ⟨given, reads, long⟩, same⟩

end Task

/-! ## Tasks that are declined or relayed -/

section

variable (w : Writer σ) (id : DocumentId)

theorem clearing_eq_ok (stop : Int) : ∃ ops, clearing stop = .ok ops := by
  unfold clearing
  split
  · next longer =>
    have span : Span.of 1 stop = .ok ⟨1, stop, by omega⟩ := dif_pos (by omega)
    rw [span]
    exact ⟨_, rfl⟩
  · exact ⟨_, rfl⟩

theorem relays_appendMarkdown (text : String) : (w.appendMarkdown id text).Relays :=
  relays_atEnd w id fun _ first =>
    relays_submitEdits w id _ ⟨_, compile_markdown w.codeFont text first⟩

theorem guarded_editing (c : Editing) : (c.perform w id).Guarded Unfit := by
  cases c with
  | append text =>
    refine Action.guarded_settled (fun _ => unfit_checkText) fun _ _ => .inr ?_
    exact relays_append w id _ fun b => ⟨_, rfl⟩
  | prepend text =>
    refine Action.guarded_settled (fun _ => unfit_checkText) fun _ _ => .inr ?_
    exact relays_submitEdits w id _ ⟨_, rfl⟩
  | contentsMarker => exact .inr (relays_submitEdits w id _ ⟨_, rfl⟩)
  | styled text style =>
    refine Action.guarded_settled (fun _ => unfit_checkText) fun _ _ => ?_
    refine Action.guarded_settled (fun _ => unfit_readStyle) fun format _ => .inr ?_
    exact relays_append w id _ fun b => ⟨_, Template.writeText_eq_extend b text format⟩
  | list kind items indent =>
    refine Action.guarded_settled (fun _ => unfit_explain) fun read _ => .inr ?_
    exact relays_append w id _ fun b => ⟨_, Template.writeList_eq_extend b read items indent⟩
  | pageBreak => exact .inr (relays_append w id _ fun b => ⟨_, rfl⟩)
  | rule => exact .inr (relays_append w id _ fun b => ⟨_, rfl⟩)
  | markdown text => exact .inr (relays_appendMarkdown w id text)
  | replacement text =>
    refine .inr (relays_atEnd w id fun stop _ => ?_)
    exact (relays_submitEdits w id _ (clearing_eq_ok stop)).bind fun _ =>
      relays_appendMarkdown w id text

theorem guarded_formatParagraphs (start stop : Int) (alignment : String) (format : ParagraphFormat) :
    (w.formatParagraphs id start stop alignment format).Guarded Unfit := by
  refine Action.guarded_settled (fun _ => unfit_checkRange) fun _ inside => ?_
  refine Action.guarded_settled (fun _ => unfit_readFormat) fun fields _ => .inr ?_
  have ordered : start ≤ stop := by
    unfold checkRange at inside
    split at inside
    · cases inside
    · omega
  have span : Span.of start stop = .ok ⟨start, stop, ordered⟩ := dif_pos ordered
  have formats (b : Builder) : b.formatParagraphs start stop fields (maskOf fields) =
      .ok (b.push (.formatParagraphs ⟨start, stop, ordered⟩ fields (maskOf fields))) := by
    rw [Builder.formatParagraphs, span]
    rfl
  exact relays_submitEdits w id _ ⟨_, editsAt_eq (Int.le_refl 1) _ (formats ⟨1, []⟩)⟩

theorem guarded_sendGiven (given : Json) : (w.sendGiven id given).Guarded (Declined given) := by
  refine Action.guarded_settled (fun _ => declined_readRequests) fun requests _ => .inr ?_
  exact (relays_perform w _ _).bind fun _ => Action.relays_pure _

theorem relays_appendText {text : String} (filled : text ≠ "") : (w.appendText id text).Relays := by
  have checked : checkText text = .ok () := if_neg filled
  rw [appendText, checked, Action.settled_ok, pure_bind]
  exact relays_append w id _ fun b => ⟨_, rfl⟩

theorem relays_create (title content : String) : (w.create title content).Relays := by
  refine (relays_perform w _ _).bind fun document => ?_
  dsimp only
  split
  · next filled => exact (relays_appendText w _ filled).bind fun _ => Action.relays_pure _
  · exact Action.relays_pure _

end

/-! ## Courses -/

/-- How a task may go, from `s`. -/
inductive Course (w : Writer σ) (id : DocumentId) (c : Task) (s : Session σ) :
    Except Failure Result → Session σ → List Exchange → Prop where
  | relayed {r : Except Failure Result} {t : Session σ} {xs : List Exchange}
    (relayed : Relayed xs r) : Course w id c s r t xs
  | declined {f : Failure} (declined : c.Declines f) : Course w id c s (.error f) s []
  /-- The snapshot has no such section, or one whose body cannot be replaced. -/
  | unplaced {heading content : String} {t : Session σ} {x : Exchange} {document : Json}
    {f : Failure} (task : c = .replaceSection heading content) (call : x.call = .get id)
    (read : x.answer = .ok document)
    (refused : sectionEdits (Snapshot.ofJson document) heading content = .error f) :
    Course w id c s (.error f) t [x]
  /-- The answer to a replacement does not tell how much was replaced. -/
  | untold {find replacement : String} {matchCase : Bool} {t : Session σ} {x : Exchange} {v : Json}
    {sent : List Json} {f : Failure} (task : c = .replaceAll find replacement matchCase)
    (call : x.call = .update id sent) (read : x.answer = .ok v) (untold : occurrences v = .error f) :
    Course w id c s (.error f) t [x]
  | phased {c' : Writing} {d : Contents} {r : Except Failure Update} {t : Session σ}
    {xs : List Exchange} (task : c = .write c') (contents : c'.contents = .ok d)
    (phases : Phases w id d s r t xs) : Course w id c s (Result.update <$> r) t xs

section

variable (w : Writer σ) (id : DocumentId) (s : Session σ)

/-- The course of a task from `s`. -/
def Takes (c : Task) : Prop :=
  ∃ r t xs, c.perform w id s = (r, t) ∧ s.Makes t xs ∧ Course w id c s r t xs

variable {w id s}

theorem takes_of_guarded {c : Task} {declines : Failure → Prop}
    (declined : ∀ f, declines f → c.Declines f) (h : (c.perform w id).Guarded declines) :
    Takes w id s c := by
  rcases h with ⟨f, why, failed⟩ | relays
  · exact ⟨.error f, s, [], by rw [failed]; rfl, .none s, .declined (declined f why)⟩
  · obtain ⟨r, t, xs, run, made, relayed⟩ := relays s
    exact ⟨r, t, xs, run, made, .relayed relayed⟩

theorem takes_of_relays {c : Task} (h : (c.perform w id).Relays) : Takes w id s c :=
  takes_of_guarded (fun f (declined : c.Declines f) => declined) (.inr h)

theorem takes_write (c : Writing) : Takes w id s (.write c) := by
  rcases c.declined_or_phases w id s with
    ⟨f, refused, failed⟩ | ⟨d, r, t, xs, contents, run, made, phases⟩
  · have declined : (Task.write c).Declines f := by
      have why := Writing.declines refused
      cases c with
      | template given => exact Task.declines_of_declined rfl why
      | table | sheet => exact .inl why
    exact ⟨.error f, s, [], Action.map_eq failed _, .none s, .declined declined⟩
  · exact ⟨_, t, xs, Action.map_eq run _, made, .phased rfl contents phases⟩

theorem takes_replaceSection (heading content : String) :
    Takes w id s (.replaceSection heading content) := by
  cases checked : requireHeading heading with
  | error f =>
    have failed : w.replaceSection id heading content s = (.error f, s) := by
      rw [replaceSection, checked]
      rfl
    exact ⟨_, s, [], Action.map_eq failed _, .none s,
      .declined (.inl (unfit_requireHeading checked))⟩
  | ok _ =>
    have begun : w.replaceSection id heading content = w.fetch id >>= fun document =>
        .settled (sectionEdits (Snapshot.ofJson document) heading content) >>= fun ops =>
          w.submitEdits id "update_section" (.ok ops) := by
      rw [replaceSection, checked]
      rfl
    rcases perform_read_cases w "get_document" (.get id)
      (fun document => sectionEdits (Snapshot.ofJson document) heading content)
      (fun ops => relays_submitEdits w id "update_section" ⟨ops, rfl⟩) s with
      ⟨r, t, xs, run, made, relayed⟩ | ⟨x, t, document, f, run, made, call, read, refused⟩
    · have run' : w.replaceSection id heading content s = (r, t) := by rwa [begun]
      exact ⟨_, t, xs, Action.map_eq run' _, made, .relayed (relayed.map _)⟩
    · have run' : w.replaceSection id heading content s = (.error f, t) := by rwa [begun]
      exact ⟨_, t, [x], Action.map_eq run' _, made, .unplaced rfl call read refused⟩

theorem takes_replaceAll (find replacement : String) (matchCase : Bool) :
    Takes w id s (.replaceAll find replacement matchCase) := by
  by_cases empty : find = ""
  · have failed : w.replaceAll id find replacement matchCase s =
        (.error (invalid (Refusal.emptyFind).message), s) := by
      rw [replaceAll, if_pos empty]
      rfl
    exact ⟨_, s, [], Action.map_eq failed _, .none s, .declined (.inl trivial)⟩
  · let ops : List Operation := [.replaceAll find replacement matchCase]
    let done : Update := { documentId := id, operations := ops.length }
    have built : Builder.replaceAll ⟨1, []⟩ find replacement matchCase = .ok ⟨1, ops⟩ :=
      if_neg empty
    have begun : w.replaceAll id find replacement matchCase =
        w.perform "replace_text" (.update id (requests ops)) >>= fun v =>
          .settled (occurrences v) >>= fun _ => pure done := by
      rw [replaceAll, if_neg empty,
        editsAt_eq (Int.le_refl 1) (fun b => b.replaceAll find replacement matchCase) built]
      rfl
    rcases perform_read_cases w "replace_text" (.update id (requests ops)) occurrences
      (fun _ => Action.relays_pure done) s with
      ⟨r, t, xs, run, made, relayed⟩ | ⟨x, t, v, f, run, made, call, read, untold⟩
    · have run' : w.replaceAll id find replacement matchCase s = (r, t) := by rwa [begun]
      exact ⟨_, t, xs, Action.map_eq run' _, made, .relayed (relayed.map _)⟩
    · have run' : w.replaceAll id find replacement matchCase s = (.error f, t) := by rwa [begun]
      exact ⟨_, t, [x], Action.map_eq run' _, made, .untold rfl call read untold⟩

/-- Every way in which a task may go. -/
theorem Task.course (c : Task) (w : Writer σ) (id : DocumentId) (s : Session σ) :
    ∃ r t xs, c.perform w id s = (r, t) ∧ s.Makes t xs ∧ Course w id c s r t xs := by
  cases c with
  | fetch => exact takes_of_relays ((relays_perform w _ _).map _)
  | submit ops operation => exact takes_of_relays ((relays_submit w id ops operation).map _)
  | send requests operation => exact takes_of_relays ((relays_perform w _ _).map _)
  | edit c => exact takes_of_guarded (fun _ => .inl) ((guarded_editing w id c).map _)
  | write c => exact takes_write c
  | replaceSection heading content => exact takes_replaceSection heading content
  | sendGiven given =>
    exact takes_of_guarded (fun _ => Task.declines_of_declined rfl)
      ((guarded_sendGiven w id given).map _)
  | formatParagraphs start stop alignment format =>
    exact takes_of_guarded (fun _ => .inl)
      ((guarded_formatParagraphs w id start stop alignment format).map _)
  | replaceAll find replacement matchCase => exact takes_replaceAll find replacement matchCase
  | create title content => exact takes_of_relays ((relays_create w title content).map _)

end

end Docwright.Writer
