import Docwright.Proofs.Snapshot.Tiling
import Docwright.Proofs.Writer.Calls

namespace Docwright.Writer

open Edit Replay Style Table

variable {σ : Type}

/-- Every element of the snapshot ends at a position of a document. -/
def Positioned (s : Snapshot) : Prop :=
  ∀ e ∈ s, ∃ stop, e.stop = some stop ∧ 1 ≤ stop

/-- An answer to a batch: an object whose replies, if it has them, are a list of objects. -/
structure IsReply (v : Json) : Prop where
  object : v.isObj = true
  replies : ∀ r, v.get? "replies" = some r → ∃ items, r = .arr items ∧
    ∀ item ∈ items, item.isObj = true ∧
      ∀ x, item.get? "replaceAllText" = some x → x.isObj = true

/-- The service answers every call, and answers it in shape. -/
structure Answering (service : Call → σ → Except Failure Json × σ) : Prop where
  tells : ∀ id s, ∃ document next, service (.get id) s = (.ok document, next) ∧
    Positioned (Snapshot.ofJson document)
  replies : ∀ id requests s, ∃ v next, service (.update id requests) s = (.ok v, next) ∧ IsReply v
  creates : ∀ title s, ∃ v next, service (.create title) s = (.ok v, next)

/-- A call that was answered at once. -/
theorem answer_of_madeAt {w : Writer σ} {p : Place σ} {x : Exchange} (made : x.MadeAt w p)
    {P : Json → Prop} (answers : ∀ s, ∃ v next, w.service x.call s = (.ok v, next) ∧ P v) :
    ∃ v, x.answer = .ok v ∧ P v := by
  obtain ⟨v, next, answered, holds⟩ := answers p.service
  have first : (w.attempt x.call p).result = .ok v := by
    unfold attempt Retry.run Retry.tryFrom
    rw [answered]
  exact ⟨v, by rw [Exchange.answer, made.result, first], holds⟩

section

variable {w : Writer σ} (answering : Answering w.service) {p : Place σ} {x : Exchange}
  (made : x.MadeAt w p)

include answering made

theorem Answering.answered : x.Answered := by
  have answers : ∀ s, ∃ v next, w.service x.call s = (.ok v, next) ∧ True := by
    intro s
    cases x.call with
    | get id =>
      obtain ⟨v, next, answered, _⟩ := answering.tells id s
      exact ⟨v, next, answered, trivial⟩
    | update id requests =>
      obtain ⟨v, next, answered, _⟩ := answering.replies id requests s
      exact ⟨v, next, answered, trivial⟩
    | create title =>
      obtain ⟨v, next, answered⟩ := answering.creates title s
      exact ⟨v, next, answered, trivial⟩
  obtain ⟨v, answer, _⟩ := answer_of_madeAt made answers
  exact ⟨v, answer⟩

theorem Answering.positioned {id : DocumentId} (call : x.call = .get id) {document : Json}
    (read : x.answer = .ok document) : Positioned (Snapshot.ofJson document) := by
  obtain ⟨v, answer, positioned⟩ := answer_of_madeAt made fun s => call ▸ answering.tells id s
  rw [read] at answer
  cases answer
  exact positioned

theorem Answering.isReply {id : DocumentId} {requests : List Json}
    (call : x.call = .update id requests) {v : Json} (read : x.answer = .ok v) : IsReply v := by
  obtain ⟨v', answer, reply⟩ := answer_of_madeAt made fun s => call ▸ answering.replies id requests s
  rw [read] at answer
  cases answer
  exact reply

end

theorem Answering.all_answered {w : Writer σ} (answering : Answering w.service) {p q : Place σ}
    {xs : List Exchange} (chain : Chain w p xs q) : ∀ x ∈ xs, x.Answered := by
  intro x hx
  obtain ⟨p, made⟩ := chain.exists_madeAt hx
  exact answering.answered made

/-! ## What is read from the answers -/

theorem memberOr_eq_ok {v : Json} (object : v.isObj = true) (absent : Json) (name : String) :
    memberOr absent name v = .ok ((v.get? name).getD absent) :=
  if_pos object

theorem exists_occurrences {v : Json} (h : IsReply v) : ∃ n, occurrences v = .ok n := by
  have counted (reply : Json) (object : reply.isObj = true)
      (shape : ∀ x, reply.get? "replaceAllText" = some x → x.isObj = true) :
      ∃ n, (memberOr (.obj []) "replaceAllText" reply >>=
        memberOr (0 : Int) "occurrencesChanged") = .ok n := by
    rw [memberOr_eq_ok object]
    have replaced : ((reply.get? "replaceAllText").getD (.obj [])).isObj = true := by
      cases hr : reply.get? "replaceAllText" with
      | none => rfl
      | some x => exact shape x hr
    exact ⟨_, memberOr_eq_ok replaced _ _⟩
  have silent := counted (.obj []) rfl fun _ absent => nomatch absent
  unfold occurrences
  split
  · rw [memberOr_eq_ok h.object]
    cases hr : v.get? "replies" with
    | none => exact silent
    | some r =>
      obtain ⟨items, rfl, shaped⟩ := h.replies r hr
      cases items with
      | nil => exact silent
      | cons item items =>
        obtain ⟨object, shape⟩ := shaped item List.mem_cons_self
        exact counted item object shape
  · exact silent

theorem mem_of_findSection {heading : String} {ss : List Snapshot.Section}
    {found : Snapshot.Section} {next : Option Int} (h : findSection heading ss = some (found, next)) :
    found ∈ ss := by
  induction ss with
  | nil => cases h
  | cons t ts ih =>
    rw [findSection] at h
    split at h
    · cases h
      exact List.mem_cons_self
    · exact List.mem_cons_of_mem _ (ih h)

theorem one_le_stop {s : Snapshot} (positioned : Positioned s) :
    ∀ found ∈ Snapshot.sections s, 1 ≤ found.stop := by
  intro found hf
  obtain ⟨e, he, headed⟩ := List.mem_filterMap.mp hf
  obtain ⟨stop, known, positive⟩ := positioned e he
  rwa [(Snapshot.section?_positions headed).2, known, Option.getD_some]

theorem deleteRange_eq_ok (b : Builder) {start stop : Int} (h : start ≤ stop) :
    b.deleteRange start stop = .ok (b.push (.delete ⟨start, stop, h⟩)) := by
  rw [Builder.deleteRange, Span.of, dif_pos h]
  rfl

theorem nameParagraphs_eq_ok (b : Builder) {start stop : Int} (h : start ≤ stop) (style : String) :
    b.nameParagraphs start stop style = .ok (b.push (.nameParagraphs ⟨start, stop, h⟩ style)) := by
  rw [Builder.nameParagraphs, Span.of, dif_pos h]
  rfl

theorem exists_placeBody (stop : Int) (s : Snapshot.Section) (content : String) (b : Builder) :
    ∃ built, placeBody stop s content b = .ok built := by
  unfold placeBody
  dsimp only
  split
  · have wide : b.cursor + 1 ≤ (b.insertText ("\n" ++ content ++ "\n")).cursor := by
      have filled : "\n" ++ content ++ "\n" ≠ "" := Text.append_ne (by decide)
      have := Text.width_pos filled
      rw [cursor_insertText]
      omega
    exact ⟨_, nameParagraphs_eq_ok _ wide _⟩
  · exact ⟨_, rfl⟩

theorem exists_replaceBody {stop : Int} {s : Snapshot.Section} (first : 1 ≤ s.stop)
    (inside : 1 ≤ stop) (next : Option Int) (content : String) :
    ∃ ops, replaceBody stop s next content = .ok ops := by
  let b : Builder := ⟨min s.stop stop, []⟩
  have emptied : ∃ cleared, (if s.stop < next.getD stop then b.deleteRange s.stop (next.getD stop)
      else .ok b) = .ok cleared := by
    split
    · next full => exact ⟨_, deleteRange_eq_ok b (Int.le_of_lt full)⟩
    · exact ⟨_, rfl⟩
  obtain ⟨cleared, emptied⟩ := emptied
  obtain ⟨built, placed⟩ := exists_placeBody stop s content cleared
  rw [replaceBody_eq]
  exact ⟨_, editsAt_eq (Int.le_min.mpr ⟨first, inside⟩) _ ((bind_of_ok emptied _).trans placed)⟩

/-- In a snapshot with positions, a section can only fail to be there. -/
theorem sectionEdits_eq_error {s : Snapshot} (positioned : Positioned s) {heading content : String}
    {f : Failure} (h : sectionEdits s heading content = .error f) :
    f = sectionMissing (Text.strip heading) := by
  unfold sectionEdits at h
  split at h
  · cases h
    rfl
  · next found next at_ =>
    obtain ⟨ops, replaced⟩ := exists_replaceBody
      (one_le_stop positioned found (mem_of_findSection at_)) (one_le_endIndex s) next content
    rw [replaced] at h
    cases h

/-- What a task may fail with, and after which calls. -/
inductive Admitted (id : DocumentId) (c : Task) : Failure → List Call → Prop where
  | unfit {f : Failure} (unfit : Unfit f) : Admitted id c f []
  | missing {heading content : String} (task : c = .replaceSection heading content) :
    Admitted id c (sectionMissing (Text.strip heading)) [.get id]
  /-- The first phase has been carried out, and a snapshot has been read once more. -/
  | unpopulated {c' : Writing} {ops : List Operation} {message : String} (task : c = .write c') :
    Admitted id c (.api .tablePopulation message .null id) (.get id :: (updates id ops ++ [.get id]))

/-- Some text with an unpaired surrogate has to be measured: one that the template inserts, or, once
its third call has shown where all of its tables are, a header of one of them. -/
inductive Unmeasurable (d : Template.Draft) (xs : List Exchange) : Prop where
  | content (marked : d.marked = true) (inserts : Template.InsertsUnpaired d.template)
  | header {x : Exchange} {document : Json} {bound : List Job} {j : Job} (marked : d.marked = true)
    (third : xs[2]? = some x) (read : x.answer = .ok document)
    (claimed : claimAll (Snapshot.ofJson document) (Template.jobs d.template) = (bound, none))
    (own : j ∈ bound) (unpaired : ∃ text ∈ j.writtenHeaders, (Text.unpaired? text).isSome = true)

/-- The task is given a template that cannot be measured. -/
def Task.Stumbles (c : Task) (xs : List Exchange) : Prop :=
  ∃ given d, c = .write (.template given) ∧ Template.Draft.ofJson given = .ok d ∧ Unmeasurable d xs

theorem perform_of_long {c : Task} {digits : Nat} (h : c.HoldsLongInteger digits) (w : Writer σ)
    (id : DocumentId) (s : Session σ) :
    c.perform w id s = (.error (.refused (.longInteger digits)), s) := by
  obtain ⟨given, reads, text, rfl, long⟩ := h
  cases c with
  | write c =>
    cases c with
    | template v =>
      cases reads
      have failed : w.appendTemplate id (.str text) s =
          (.error (.refused (.longInteger digits)), s) := by
        rw [appendTemplate, Template.draft_of_long ⟨text, rfl, long⟩]
        rfl
      exact Action.map_eq failed Result.update
    | table | sheet => cases reads
  | sendGiven v =>
    cases reads
    have read : readRequests (.str text) = .error (.refused (.longInteger digits)) := by
      simp only [readRequests, readRequestText, long]
      rfl
    have failed : w.sendGiven id (.str text) s = (.error (.refused (.longInteger digits)), s) := by
      rw [sendGiven, read]
      rfl
    exact Action.map_eq failed Result.update
  | _ => cases reads

/-- Only the text of a template is ever marked. -/
theorem Writing.draft_of_marked {c : Writing} {d : Contents} (contents : c.contents = .ok d)
    (marked : d.marked = true) : ∃ given draft, c = .template given ∧
      Template.Draft.ofJson given = .ok draft ∧ d = .ofDraft draft := by
  cases c with
  | template given =>
    obtain ⟨draft, accepted, rfl⟩ := exists_of_map contents
    exact ⟨given, draft, rfl, accepted, rfl⟩
  | table =>
    rw [Writing.contents] at contents
    split at contents
    · cases contents
    · cases contents
      cases marked
  | sheet =>
    obtain ⟨_, _, rfl⟩ := exists_of_map contents
    cases marked

/-- Every call being answered, the first phase can only fail to measure its texts. -/
theorem Opening.unmeasured_of_answered {id : DocumentId} {c : Contents} {f : Failure}
    {xs : List Exchange} (h : Opening id c (.error f) xs) (answered : ∀ x ∈ xs, x.Answered) :
    ∃ stop, 1 ≤ stop ∧ c.measure stop = .error f := by
  cases h with
  | unread call wrong => exact absurd (answered _ List.mem_cons_self) (not_answered wrong)
  | uncreated call read update wrong => exact absurd (answered _ (by simp)) (not_answered wrong)
  | unmeasured call read unmeasured => exact ⟨_, one_le_endIndex _, unmeasured⟩

section

variable {id : DocumentId} {given : Json} {d : Template.Draft}
  (accepted : Template.Draft.ofJson given = .ok d)

include accepted

theorem measure_ofDraft {stop : Int} (first : 1 ≤ stop) : (Contents.ofDraft d).measure stop = .ok () ↔
    ¬(d.marked = true ∧ Template.InsertsUnpaired d.template) :=
  Template.checkEncodable_draft (operations_compiledAt (Template.Draft.proper accepted) first)

/-- A template with tables has a batch for its first phase. -/
theorem length_of_opening {created : Update} {xs : List Exchange}
    (h : Opening id (.ofDraft d) (.ok created) xs) (tables : Template.jobs d.template ≠ []) :
    xs.length = 2 := by
  cases h with
  | @created x ys document call read measured calls answered =>
    have operations : (Contents.ofDraft d).edits (Snapshot.ofJson document).endIndex =
        Replay.batch (Snapshot.ofJson document).endIndex (Template.passages d.template) :=
      operations_compiledAt (Template.Draft.proper accepted) (one_le_endIndex _)
    have written : (Contents.ofDraft d).edits (Snapshot.ofJson document).endIndex ≠ [] := by
      rw [operations]
      intro none
      have serves := Template.serves_jobs d.template 0 (Snapshot.ofJson document).endIndex
      rw [none] at serves
      exact tables (List.forall₂_nil_right_iff.mp serves)
    have one : ys.length = 1 := by
      rw [← List.length_map Exchange.call, calls, updates, if_neg (mt List.isEmpty_iff.mp written)]
      rfl
    rw [List.length_cons, one]

end

/-- In the second phase, every call being answered, only a table can be missing, unless the header of
one cannot be measured. -/
theorem Populating.hindered {id : DocumentId} {marked : Bool} {jobs : List Job} {p : Population}
    {xs : List Exchange} (h : Populating id marked jobs p xs) (answered : ∀ x ∈ xs, x.Answered)
    {f : Failure} (stopped : p.failure = some f) :
    (∃ o : Obstacle, f = o.toFailure ∧ xs.map Exchange.call = [.get id]) ∨
    ∃ x document bound j, xs[0]? = some x ∧ x.answer = .ok document ∧
      claimAll (Snapshot.ofJson document) jobs = (bound, none) ∧ j ∈ bound ∧
      checkEncodable marked j.writtenHeaders = .error f := by
  cases h with
  | nothing empty => cases stopped
  | unread content call failed =>
    exact absurd (answered _ List.mem_cons_self) (not_answered failed)
  | @unbound x _ _ o content call read claimed =>
    cases stopped
    exact .inl ⟨o, rfl, congrArg ([·]) call⟩
  | @bound x document bound p xs content call read claimed filling =>
    cases filling with
    | all => cases stopped
    | stopped before split calls _ call' failed =>
      exact absurd (answered _ (by simp)) (not_answered failed)
    | @unmeasured before after j xs f split calls _ unmeasured =>
      cases stopped
      exact .inr ⟨x, document, bound, j, rfl, read, claimed, by simp [split], unmeasured⟩

theorem Populating.unencodable {id : DocumentId} {marked : Bool} {jobs : List Job} {p : Population}
    {xs : List Exchange} (h : Populating id marked jobs p xs) (answered : ∀ x ∈ xs, x.Answered)
    (texts : marked = true) {x : Exchange} {document : Json} {bound : List Job} {j : Job}
    (first : xs[0]? = some x) (read : x.answer = .ok document)
    (claimed : claimAll (Snapshot.ofJson document) jobs = (bound, none)) (own : j ∈ bound)
    (unpaired : ∃ text ∈ j.writtenHeaders, (Text.unpaired? text).isSome = true) :
    ∃ f, p.failure = some f ∧ f.Unencodable := by
  cases h with
  | nothing empty => cases first
  | unread content call failed => exact absurd (answered _ List.mem_cons_self) (not_answered failed)
  | unbound content call read' claimed' =>
    cases first
    cases read.symm.trans read'
    cases claimed.symm.trans claimed'
  | bound content call read' claimed' filling =>
    cases first
    cases read.symm.trans read'
    cases claimed.symm.trans claimed'
    cases filling with
    | all calls _ measured =>
      exact absurd ⟨texts, unpaired⟩ (checkEncodable_eq_ok_iff.mp (measured j own))
    | stopped before split calls _ call' failed =>
      exact absurd (answered _ (by simp)) (not_answered failed)
    | unmeasured before split calls _ unmeasured =>
      exact ⟨_, rfl, (unencodable_of_checkEncodable unmeasured).2⟩

theorem Phases.classified {w : Writer σ} {id : DocumentId} {c : Task} {c' : Writing}
    (task : c = .write c') {d : Contents} (contents : c'.contents = .ok d) {s t : Session σ}
    {r : Except Failure Update} {xs : List Exchange} (h : Phases w id d s r t xs)
    (answered : ∀ x ∈ xs, x.Answered) {f : Failure} (failed : Result.update <$> r = .error f) :
    Admitted id c f (xs.map Exchange.call) ∨ c.Stumbles xs := by
  have stumbles {texts : List String} (unmeasured : checkEncodable d.marked texts = .error f)
      (why : ∀ given draft, Template.Draft.ofJson given = .ok draft → d = .ofDraft draft →
        draft.marked = true → Unmeasurable draft xs) : c.Stumbles xs := by
    have marked := (unencodable_of_checkEncodable unmeasured).1
    obtain ⟨given, draft, rfl, accepted, rfl⟩ := Writing.draft_of_marked contents marked
    exact ⟨given, draft, task, accepted, why given draft accepted rfl marked⟩
  cases h with
  | unopened opening =>
    cases failed
    obtain ⟨stop, first, unmeasured⟩ := opening.unmeasured_of_answered answered
    refine .inr (stumbles unmeasured fun given draft accepted same marked => ?_)
    subst same
    have blocked : ¬(Contents.ofDraft draft).measure stop = .ok () := by
      rw [unmeasured]
      nofun
    exact .content marked (Classical.not_not.mp (mt (measure_ofDraft accepted first).mpr blocked)).2
  | @opened _ _ _ p first rest opening begun reached ran populating =>
    unfold Population.outcome at failed
    split at failed
    · next g stopped =>
      have later : ∀ z ∈ rest, z.Answered := fun z hz => answered z (List.mem_append_right _ hz)
      rcases populating.hindered later stopped with
        ⟨o, rfl, reading⟩ | ⟨x, document, bound, j, second, read, claimed, own, unmeasured⟩
      · cases failed
        cases opening with
        | created call _ _ calls _ =>
          rw [List.map_append, List.map_cons, call, calls, reading]
          exact .inl (.unpopulated task)
      · rw [populationFailure_of_not_api _ (unencodable_of_checkEncodable unmeasured).2.isApi] at failed
        cases failed
        refine .inr (stumbles unmeasured fun given draft accepted same marked => ?_)
        subst same
        have two := length_of_opening accepted opening (ne_nil_of_claimAll claimed own)
        exact .header marked (by rw [List.getElem?_append_right (by omega), two]; exact second) read
          claimed own (exists_checkEncodable_eq_error_iff.mp ⟨_, unmeasured⟩).2
    · cases failed

/-- A template that cannot be measured fails once it gets there. -/
theorem Phases.unencodable {w : Writer σ} {id : DocumentId} {given : Json} {d : Template.Draft}
    (accepted : Template.Draft.ofJson given = .ok d) {s t : Session σ} {r : Except Failure Update}
    {xs : List Exchange} (h : Phases w id (.ofDraft d) s r t xs) (answered : ∀ x ∈ xs, x.Answered)
    (unmeasurable : Unmeasurable d xs) : ∃ f, f.Unencodable ∧ r = .error f := by
  cases h with
  | unopened opening =>
    obtain ⟨_, _, unmeasured⟩ := opening.unmeasured_of_answered answered
    exact ⟨_, (unencodable_of_checkEncodable unmeasured).2, rfl⟩
  | @opened _ _ created p first rest opening begun reached ran populating =>
    have later : ∀ z ∈ rest, z.Answered := fun z hz => answered z (List.mem_append_right _ hz)
    cases unmeasurable with
    | content marked inserts =>
      cases opening with
      | created call read measured calls _ =>
        exact absurd ⟨marked, inserts⟩ ((measure_ofDraft accepted (one_le_endIndex _)).mp measured)
    | header marked third read claimed own unpaired =>
      have two := length_of_opening accepted opening (ne_nil_of_claimAll claimed own)
      rw [List.getElem?_append_right (by omega), two] at third
      obtain ⟨f, stopped, unencodable⟩ :=
        populating.unencodable later marked third read claimed own unpaired
      refine ⟨f, unencodable, ?_⟩
      rw [Population.outcome, stopped]
      exact congrArg Except.error (populationFailure_of_not_api _ unencodable.isApi)

theorem Course.classified {w : Writer σ} {id : DocumentId} {c : Task} {s t : Session σ}
    {r : Except Failure Result} {xs : List Exchange} (h : Course w id c s r t xs)
    (answering : Answering w.service) {p q : Place σ} (chain : Chain w p xs q)
    (short : ∀ digits, ¬c.HoldsLongInteger digits) {f : Failure} (failed : r = .error f) :
    Admitted id c f (xs.map Exchange.call) ∨ c.Stumbles xs := by
  have answered := answering.all_answered chain
  cases h with
  | relayed relayed =>
    cases relayed with
    | answered all a => cases failed
    | failed before wrong =>
      exact absurd (answered _ (by simp)) (not_answered wrong)
  | declined declined =>
    cases failed
    rcases declined with unfit | ⟨digits, long, _⟩
    · exact .inl (.unfit unfit)
    · exact absurd long (short digits)
  | unplaced task call read refused =>
    cases failed
    obtain ⟨p, made⟩ := chain.exists_madeAt List.mem_cons_self
    have positioned := answering.positioned made call read
    rw [sectionEdits_eq_error positioned refused, List.map_singleton, call]
    exact .inl (.missing task)
  | untold task call read untold =>
    obtain ⟨p, made⟩ := chain.exists_madeAt List.mem_cons_self
    obtain ⟨n, told⟩ := exists_occurrences (answering.isReply made call read)
    rw [told] at untold
    cases untold
  | phased task contents phases => exact phases.classified task contents answered failed

theorem not_admitted_unencodable {id : DocumentId} {c : Task} {f : Failure} {calls : List Call}
    (h : f.Unencodable) : ¬Admitted id c f calls := by
  obtain ⟨surrogate, position, _, rfl⟩ := h
  intro admitted
  cases admitted with
  | unfit unfit => exact unfit

theorem not_admitted_long {id : DocumentId} {c : Task} {digits : Nat} {calls : List Call} :
    ¬Admitted id c (.refused (.longInteger digits)) calls := by
  intro admitted
  cases admitted with
  | unfit unfit => exact unfit

/-- Every call being answered, a task that stumbles ends in the refusal of a surrogate. -/
theorem Task.Stumbles.unencodable {c : Task} {w : Writer σ} {id : DocumentId} {s t : Session σ}
    {r : Except Failure Result} {xs : List Exchange} (run : c.perform w id s = (r, t))
    (made : s.Makes t xs) (answered : ∀ x ∈ xs, x.Answered) (h : c.Stumbles xs) :
    ∃ f, f.Unencodable ∧ r = .error f := by
  obtain ⟨given, d, rfl, accepted, unmeasurable⟩ := h
  obtain ⟨r', t', ys, run', made', phases⟩ := phases_inTwoPhases w id (.ofDraft d) s
  rw [← appendTemplate_eq w id accepted] at run'
  cases run.symm.trans (Action.map_eq run' Result.update)
  obtain rfl := made'.unique made
  obtain ⟨f, unencodable, rfl⟩ := phases.unencodable accepted answered unmeasurable
  exact ⟨f, unencodable, rfl⟩

/-- Against a service that answers every call in shape, a task fails in no other way than these if
and only if it is given neither a text with an integer that is too long to be read nor a template
with an unpaired surrogate in a text that has to be measured: it finds its arguments unfit, before
any call; it misses its section, after reading the document once and writing nothing; or, its first
phase written, it cannot find a table again. Given such an integer, it ends in the refusal of that
integer, before any call; given such a template, in that of a surrogate. -/
theorem failures_admitted_iff {w : Writer σ} (answering : Answering w.service) (id : DocumentId)
    (c : Task) (s : Session σ) : ∃ r t xs, c.perform w id s = (r, t) ∧ s.Makes t xs ∧
      ((∀ f, r = .error f → Admitted id c f (xs.map Exchange.call)) ↔
        (∀ digits, ¬c.HoldsLongInteger digits) ∧ ¬c.Stumbles xs) ∧
      (∀ digits, c.HoldsLongInteger digits →
        r = .error (.refused (.longInteger digits)) ∧ xs = []) ∧
      (c.Stumbles xs → ∃ f, f.Unencodable ∧ r = .error f) := by
  obtain ⟨r, t, xs, run, made, course⟩ := c.course w id s
  obtain ⟨all, made', chain, _⟩ := c.only w id s
  rw [run] at made'
  obtain rfl := made'.unique made
  have answered := answering.all_answered chain
  have refused {digits : Nat} (long : c.HoldsLongInteger digits) :
      r = .error (.refused (.longInteger digits)) ∧ all = [] := by
    have ended := perform_of_long long w id s
    rw [run] at ended
    cases ended
    exact ⟨rfl, made.unique (.none s)⟩
  have stumbled (stumbles : c.Stumbles all) : ∃ f, f.Unencodable ∧ r = .error f :=
    stumbles.unencodable run made answered
  refine ⟨r, t, all, run, made, ⟨fun admitted => ⟨fun digits long => ?_, fun stumbles => ?_⟩, ?_⟩,
    fun digits long => refused long, stumbled⟩
  · exact not_admitted_long (admitted _ (refused long).1)
  · obtain ⟨f, unencodable, failed⟩ := stumbled stumbles
    exact not_admitted_unencodable unencodable (admitted f failed)
  · rintro ⟨short, measurable⟩ f failed
    exact (course.classified answering chain short failed).resolve_right measurable

/-- Tells of an empty document, whatever it is asked to write. -/
def courteous : Writer Unit where
  service
    | .get _, s => (.ok (.obj [("body", .obj [("content",
        .arr [.obj [("endIndex", .num (.int 1))],
          .obj [("startIndex", .num (.int 1)), ("endIndex", .num (.int 2))]])])]), s)
    | .update _ _, s => (.ok (.obj [("replies", .arr [])]), s)
    | .create _, s => (.ok (.obj []), s)
  policy := .standard
  draw _ := 1
  codeFont := "Roboto Mono"

theorem answering_courteous : Answering courteous.service where
  tells id s := by
    refine ⟨_, s, rfl, ?_⟩
    have ends : Positioned [⟨none, some 1, none, none⟩, ⟨some 1, some 2, none, none⟩] := by
      intro e he
      rcases List.mem_pair.mp he with rfl | rfl
      · exact ⟨1, rfl, by decide⟩
      · exact ⟨2, rfl, by decide⟩
    exact ends
  replies id requests s := by
    refine ⟨_, s, rfl, rfl, ?_⟩
    rintro r given
    cases given
    exact ⟨[], rfl, List.forall_mem_nil _⟩
  creates title s := ⟨_, s, rfl⟩

def idle : Session Unit :=
  ⟨(), 0, []⟩

theorem missing_section_admitted : ∃ t xs,
    (Task.replaceSection "Intro" "x").perform courteous (some "doc") idle =
      (.error (sectionMissing "Intro"), t) ∧ idle.Makes t xs ∧
    Admitted (some "doc") (.replaceSection "Intro" "x") (sectionMissing "Intro")
      (xs.map Exchange.call) := by
  have short : ∀ digits, ¬(Task.replaceSection "Intro" "x").HoldsLongInteger digits := by
    rintro digits ⟨_, none, _⟩
    cases none
  obtain ⟨r, t, xs, run, made, admitted, _⟩ := failures_admitted_iff answering_courteous (some "doc")
    (.replaceSection "Intro" "x") idle
  have missing : ((Task.replaceSection "Intro" "x").perform courteous (some "doc") idle).1 =
      .error (sectionMissing "Intro") := by with_unfolding_all rfl
  rw [run] at missing
  subst missing
  have measurable : ¬(Task.replaceSection "Intro" "x").Stumbles xs := by
    rintro ⟨_, _, other, _⟩
    cases other
  exact ⟨t, xs, run, made, admitted.mpr ⟨short, measurable⟩ _ rfl⟩

/-- Requests with an integer of 4301 digits are refused in a way that speaks of no argument. -/
theorem longInteger_not_admitted : Answering courteous.service ∧ ∃ f,
    (Task.sendGiven Template.longTitle).perform courteous (some "doc") idle = (.error f, idle) ∧
      ∀ calls, ¬Admitted (some "doc") (.sendGiven Template.longTitle) f calls := by
  have long : (Task.sendGiven Template.longTitle).HoldsLongInteger 4301 :=
    ⟨_, rfl, _, rfl, Json.ofText_onesTitle (by decide)⟩
  refine ⟨answering_courteous, _, perform_of_long long courteous (some "doc") idle, ?_⟩
  rintro calls admitted
  cases admitted with
  | unfit unfit => exact unfit

theorem brokenTitle_stumbles (xs : List Exchange) :
    (Task.write (.template Template.brokenTitle)).Stumbles xs := by
  obtain ⟨t, accepted, inserts⟩ := Template.brokenTitle_holdsUnpaired
  exact ⟨_, _, rfl, accepted, .content rfl inserts⟩

end Docwright.Writer
