import Docwright.Proofs.Writer.Chain
import Docwright.Proofs.Writer.Masks
import Docwright.Proofs.Writer.Task

namespace Docwright.Writer

open Edit Replay Style

variable {σ α β : Type}

/-- The requests of an update have exact masks. -/
def Call.Masked : Call → Prop
  | .update _ requests => ∀ request ∈ requests, ExactMask request
  | .get _ | .create _ => True

/-- From `s` to `t`, the writer has made calls, one after the other and all of them of a kind. -/
def Session.MakesOnly (w : Writer σ) (kind : Call → Prop) (s t : Session σ) : Prop :=
  ∃ xs, s.Makes t xs ∧ Chain w s.place xs t.place ∧ ∀ x ∈ xs, kind x.call

/-- All calls of the action are of a kind. -/
def Action.Only (w : Writer σ) (kind : Call → Prop) (a : Action σ α) : Prop :=
  ∀ s : Session σ, s.MakesOnly w kind (a s).2

section

variable {w : Writer σ} {kind : Call → Prop}

theorem Session.MakesOnly.none (s : Session σ) : s.MakesOnly w kind s :=
  ⟨[], .none s, .none _, List.forall_mem_nil _⟩

theorem Session.MakesOnly.trans {s t u : Session σ} (h : s.MakesOnly w kind t)
    (h' : t.MakesOnly w kind u) : s.MakesOnly w kind u := by
  obtain ⟨xs, made, chain, all⟩ := h
  obtain ⟨ys, made', chain', all'⟩ := h'
  exact ⟨xs ++ ys, made.trans made', chain.trans chain', List.forall_mem_append.mpr ⟨all, all'⟩⟩

namespace Action

theorem Only.mono {a : Action σ α} (h : a.Only w kind) {wider : Call → Prop}
    (le : ∀ call, kind call → wider call) : a.Only w wider := by
  intro s
  obtain ⟨xs, made, chain, all⟩ := h s
  exact ⟨xs, made, chain, fun x hx => le x.call (all x hx)⟩

theorem only_settled (e : Except Failure α) : (Action.settled e : Action σ α).Only w kind :=
  fun s => Session.MakesOnly.none s

theorem only_pure (a : α) : (pure a : Action σ α).Only w kind :=
  fun s => Session.MakesOnly.none s

theorem only_warn (texts : List String) : (Action.warn texts : Action σ Unit).Only w kind := by
  intro s
  obtain ⟨t, warned, quiet⟩ := warn_makes texts s
  cases warned
  exact ⟨[], quiet, .none _, List.forall_mem_nil _⟩

/-- What comes next matters only where the first action succeeds. -/
theorem Only.bind_of {x : Action σ α} {f : α → Action σ β} (hx : x.Only w kind)
    (hf : ∀ s a, (x s).1 = .ok a → (f a).Only w kind) : (x >>= f).Only w kind := by
  intro s
  have first := hx s
  rcases run : x s with ⟨_ | a, t⟩
  · rw [bind_of_error run]
    rwa [run] at first
  · rw [bind_of_ok run]
    rw [run] at first
    exact first.trans (hf s a (by rw [run]) t)

theorem Only.bind {x : Action σ α} {f : α → Action σ β} (hx : x.Only w kind)
    (hf : ∀ a, (f a).Only w kind) : (x >>= f).Only w kind :=
  hx.bind_of fun _ a _ => hf a

theorem only_settled_bind {e : Except Failure α} {f : α → Action σ β}
    (hf : ∀ a, e = .ok a → (f a).Only w kind) : (Action.settled e >>= f).Only w kind :=
  (only_settled e).bind_of fun _ a found => hf a found

theorem Only.map {x : Action σ α} (h : x.Only w kind) (g : α → β) : (g <$> x).Only w kind :=
  h.bind fun a => only_pure (g a)

end Action

theorem only_perform (operation : String) {call : Call} (allowed : kind call) :
    (w.perform operation call).Only w kind := by
  intro s
  exact ⟨[_], List.filterMap_append, .cons ⟨rfl, rfl⟩ (.none _), List.forall_mem_singleton.mpr allowed⟩

end

section

variable (w : Writer σ) (id : DocumentId)

theorem only_fetch : (w.fetch id).Only w Call.Masked :=
  only_perform _ trivial

theorem only_submit {ops : List Operation} (masked : ∀ op ∈ ops, op.Masked) (operation : String) :
    (w.submit id ops operation).Only w Call.Masked := by
  unfold submit
  split
  · exact Action.only_pure _
  · exact only_perform _ (exactMask_of_mem_requests masked)

theorem only_submitEdits (operation : String) {edits : Except Refusal (List Operation)}
    (masked : ∀ ops, edits = .ok ops → ∀ op ∈ ops, op.Masked) :
    (w.submitEdits id operation edits).Only w Call.Masked := by
  refine Action.only_settled_bind fun ops compiled => ?_
  exact (only_submit w id (masked ops (mapError_eq_ok compiled)) operation).bind fun _ =>
    Action.only_pure _

theorem only_atEnd {next : Int → Action σ α}
    (only : ∀ stop, 1 ≤ stop → (next stop).Only w Call.Masked) :
    (w.endOf id >>= next).Only w Call.Masked := by
  rw [endOf_bind]
  exact (only_fetch w id).bind fun document => only _ (one_le_endIndex _)

theorem masked_extend {b : Builder} (begun : b.Masked) {ps : List Passage}
    (masked : ∀ p ∈ ps, p.Masked) : (extend b ps).Masked :=
  List.forall_mem_append.mpr ⟨begun, masked_of_mem_batch masked _⟩

theorem only_append (operation : String) {build : Builder → Except Refusal Builder}
    {ps : List Passage} (builds : ∀ b, build b = .ok (extend b ps)) (masked : ∀ p ∈ ps, p.Masked) :
    (w.append id operation build).Only w Call.Masked := by
  refine only_atEnd w id fun stop _ => only_submitEdits w id operation fun ops compiled => ?_
  refine masked_editsAt (fun b built begun done => ?_) compiled
  rw [builds] at done
  cases done
  exact masked_extend begun masked

theorem masked_text (text : String) : ∀ p ∈ [Passage.text text []], p.Masked :=
  List.forall_mem_singleton.mpr (List.forall_mem_nil _)

theorem only_appendText (text : String) : (w.appendText id text).Only w Call.Masked :=
  Action.only_settled_bind fun _ _ => only_append w id _
    (fun b => congrArg Except.ok (insertText_eq_extend b text)) (masked_text text)

theorem only_prepend (operation text : String) :
    (w.submitEdits id operation (editsAt 1 fun b => .ok (b.insertText text))).Only w Call.Masked := by
  refine only_submitEdits w id operation fun ops compiled => ?_
  refine masked_editsAt (fun b built begun done => ?_) compiled
  cases done
  exact begun.insertText text

theorem masked_markdownPassages (font text : String) : ∀ p ∈ markdownPassages font text, p.Masked := by
  unfold markdownPassages
  split
  · exact List.forall_mem_nil _
  · exact Markdown.masked_allPassages font _

theorem only_appendMarkdown (text : String) : (w.appendMarkdown id text).Only w Call.Masked := by
  refine only_atEnd w id fun stop first => only_submitEdits w id _ fun ops compiled => ?_
  rw [compile_markdown w.codeFont text first] at compiled
  cases compiled
  exact masked_of_mem_batch (masked_markdownPassages w.codeFont text) _

theorem masked_clearing {stop : Int} {ops : List Operation} (h : clearing stop = .ok ops) :
    ∀ op ∈ ops, op.Masked := by
  unfold clearing at h
  split at h
  · cases hs : Span.of 1 stop with
    | error r =>
      rw [hs] at h
      cases h
    | ok span =>
      rw [hs] at h
      cases h
      exact List.forall_mem_singleton.mpr (masked_of_no_range rfl)
  · cases h
    exact List.forall_mem_nil _

theorem only_editing (c : Editing) : (c.perform w id).Only w Call.Masked := by
  cases c with
  | append text => exact only_appendText w id text
  | prepend text => exact Action.only_settled_bind fun _ _ => only_prepend w id _ text
  | contentsMarker => exact only_prepend w id _ contentsMarker
  | styled text style =>
    refine Action.only_settled_bind fun _ _ => Action.only_settled_bind fun format _ => ?_
    exact only_append w id _ (fun b => Template.writeText_eq_extend b text format)
      (List.forall_mem_singleton.mpr (Template.masked_textPassage text format))
  | list kind items indent =>
    refine Action.only_settled_bind fun read _ => ?_
    exact only_append w id _ (fun b => Template.writeList_eq_extend b read items indent)
      (List.forall_mem_singleton.mpr (Template.masked_listPassage read items indent))
  | pageBreak =>
    exact only_append w id _ (fun b => congrArg Except.ok (insertPageBreak_eq_extend b))
      (List.forall_mem_singleton.mpr trivial)
  | rule =>
    exact only_append w id _ (fun b => congrArg Except.ok (insertText_eq_extend b _)) (masked_text _)
  | markdown text => exact only_appendMarkdown w id text
  | replacement text =>
    refine only_atEnd w id fun stop _ => ?_
    exact (only_submitEdits w id _ fun ops => masked_clearing).bind fun _ =>
      only_appendMarkdown w id text

/-! ## Two phases -/

theorem masked_batch {j : Table.Job} {ops : List Operation} (h : batch j = .ok ops) :
    ∀ op ∈ ops, op.Masked := by
  unfold batch at h
  split at h
  · exact Table.masked_operations h
  · cases h
    exact List.forall_mem_nil _

theorem only_fillJob (marked : Bool) (j : Table.Job) :
    (w.fillJob id marked j).Only w Call.Masked := by
  refine Action.only_settled_bind fun ops found => Action.only_settled_bind fun _ _ => ?_
  refine (only_submit w id (masked_batch (mapError_eq_ok found)) _).bind fun _ => ?_
  exact Action.only_settled_bind fun _ _ => Action.only_pure _

theorem makesOnly_fillJobs (marked : Bool) (jobs : List Table.Job) (s : Session σ) :
    s.MakesOnly w Call.Masked (w.fillJobs id marked jobs s).2 := by
  induction jobs generalizing s with
  | nil => exact .none s
  | cons j js ih =>
    have first := only_fillJob w id marked j s
    unfold fillJobs
    rcases run : w.fillJob id marked j s with ⟨_ | ⟨n, done⟩, t⟩
    · rwa [run] at first
    · rw [run] at first
      exact first.trans (ih t)

theorem only_bindJobs (jobs : List Table.Job) (document : Json) :
    (bindJobs jobs document : Action σ _).Only w Call.Masked :=
  (Action.only_warn _).bind fun _ => Action.only_pure _

theorem makesOnly_runJobs (jobs : List Table.Job) (s : Session σ) (marked : Bool) :
    s.MakesOnly w Call.Masked (w.runJobs id jobs s marked).2 := by
  have found := (only_fetch w id).bind (only_bindJobs w jobs) s
  unfold runJobs
  split
  · exact .none s
  · change s.MakesOnly w Call.Masked ((w.fetch id).andThen (bindJobs jobs) s).2 at found
    rcases run : (w.fetch id).andThen (bindJobs jobs) s with ⟨_ | ⟨bound, _ | o⟩, t⟩
    · rwa [run] at found
    · rw [run] at found
      exact found.trans (makesOnly_fillJobs w id marked bound t)
    · rwa [run] at found

theorem only_inTwoPhases {c : Contents} (masked : ∀ stop, 1 ≤ stop → ∀ op ∈ c.edits stop, op.Masked) :
    (w.inTwoPhases id c).Only w Call.Masked := by
  refine Action.Only.bind (only_atEnd w id fun stop first => ?_) fun created => ?_
  · refine (Action.only_warn _).bind fun _ => Action.only_settled_bind fun _ _ => ?_
    exact (only_submit w id (masked stop first) c.operation).bind fun _ => Action.only_pure _
  · have populate : (w.populate id c.jobs c.marked).Only w Call.Masked :=
      fun s => makesOnly_runJobs w id c.jobs s c.marked
    exact populate.bind fun _ => Action.only_pure _

theorem masked_tableAt (rows columns stop : Int) : ∀ op ∈ tableAt rows columns stop, op.Masked :=
  List.forall_mem_singleton.mpr (masked_of_no_range rfl)

theorem masked_compiledAt {t : Template} (h : Template.Proper t) {stop : Int} (first : 1 ≤ stop) :
    ∀ op ∈ (compiledAt t stop).operations, op.Masked := by
  rw [operations_compiledAt h first]
  exact masked_of_mem_batch (Template.masked_passages t) _

theorem Contents.masked {c : Writing} {d : Contents} (h : c.contents = .ok d) {stop : Int}
    (first : 1 ≤ stop) : ∀ op ∈ d.edits stop, op.Masked := by
  cases c with
  | template given =>
    obtain ⟨draft, accepted, rfl⟩ := exists_of_map h
    exact masked_compiledAt (Template.Draft.proper accepted) first
  | table rows columns headers data =>
    rw [Writing.contents] at h
    split at h
    · cases h
    · cases h
      exact masked_tableAt rows columns stop
  | sheet text hasHeaders =>
    obtain ⟨sheet, _, rfl⟩ := exists_of_map h
    exact masked_tableAt _ _ stop

theorem only_writing (c : Writing) : (c.append w id).Only w Call.Masked := by
  rw [c.append_eq]
  exact Action.only_settled_bind fun d contents =>
    only_inTwoPhases w id fun _ first => Contents.masked contents first

/-! ## Tasks -/

/-- The edits of the task are compiled by the writer, and not given to it. -/
def Task.Compiled : Task → Prop
  | .submit .. | .send .. | .sendGiven _ => False
  | _ => True

theorem only_given {a : Action σ α} {c : Task} (given : ¬c.Compiled)
    (only : a.Only w fun _ => True) : a.Only w fun call => c.Compiled → call.Masked :=
  only.mono fun _ _ compiled => absurd compiled given

theorem only_compiled {a : Action σ α} {c : Task} (only : a.Only w Call.Masked) :
    a.Only w fun call => c.Compiled → call.Masked :=
  only.mono fun _ masked _ => masked

theorem only_replaceSection (heading content : String) :
    (w.replaceSection id heading content).Only w Call.Masked := by
  refine Action.only_settled_bind fun _ _ => (only_fetch w id).bind fun document => ?_
  refine Action.only_settled_bind fun ops found => only_submitEdits w id _ fun edits same => ?_
  cases same
  exact masked_sectionEdits found

theorem only_formatParagraphs (start stop : Int) (alignment : String) (format : ParagraphFormat) :
    (w.formatParagraphs id start stop alignment format).Only w Call.Masked := by
  refine Action.only_settled_bind fun _ _ => Action.only_settled_bind fun fields read => ?_
  refine only_submitEdits w id _ fun ops compiled => ?_
  exact masked_editsAt (fun b built begun done => begun.formatParagraphs (lists_readFormat read) done)
    compiled

theorem masked_replaceAll {find replacement : String} {matchCase : Bool} {b built : Builder}
    (begun : b.Masked) (done : b.replaceAll find replacement matchCase = .ok built) :
    built.Masked := by
  unfold Builder.replaceAll at done
  split at done
  · cases done
  · cases done
    exact begun.push (masked_of_no_range rfl)

theorem only_replaceAll (find replacement : String) (matchCase : Bool) :
    (w.replaceAll id find replacement matchCase).Only w Call.Masked := by
  unfold replaceAll
  dsimp only
  split
  · exact Action.only_settled_bind fun _ found => nomatch found
  · refine Action.only_settled_bind fun ops found => ?_
    refine (only_submit w id (masked_editsAt ?_ (mapError_eq_ok found)) _).bind fun _ => ?_
    · exact fun _ _ begun done => masked_replaceAll begun done
    · exact Action.only_settled_bind fun _ _ => Action.only_pure _

theorem only_create (title content : String) : (w.create title content).Only w Call.Masked := by
  refine (only_perform _ trivial).bind fun document => ?_
  dsimp only
  split
  · exact (only_appendText w _ content).bind fun _ => Action.only_pure _
  · exact Action.only_pure _

/-- The calls of a task are runs as the policy says, one after the other; if its edits are compiled,
its updates have exact masks. -/
theorem Task.only (c : Task) :
    (c.perform w id).Only w fun call => c.Compiled → call.Masked := by
  cases c with
  | fetch => exact only_compiled w ((only_fetch w id).map _)
  | edit c => exact only_compiled w ((only_editing w id c).map _)
  | write c => exact only_compiled w ((only_writing w id c).map _)
  | replaceSection heading content =>
    exact only_compiled w ((only_replaceSection w id heading content).map _)
  | formatParagraphs start stop alignment format =>
    exact only_compiled w ((only_formatParagraphs w id start stop alignment format).map _)
  | replaceAll find replacement matchCase =>
    exact only_compiled w ((only_replaceAll w id find replacement matchCase).map _)
  | create title content => exact only_compiled w ((only_create w title content).map _)
  | submit ops operation =>
    refine only_given w (fun compiled => compiled) (Action.Only.map ?_ _)
    unfold Writer.submit
    split
    · exact Action.only_pure _
    · exact only_perform _ trivial
  | send requests operation =>
    exact only_given w (fun compiled => compiled) ((only_perform _ trivial).map _)
  | sendGiven given =>
    refine only_given w (fun compiled => compiled) (Action.Only.map ?_ _)
    refine Action.only_settled_bind fun requests _ => ?_
    exact (only_perform _ trivial).bind fun _ => Action.only_pure _

end

/-- Masks are exact wherever the writer compiles edits. Every Markdown tree and every accepted
template compiles, at any position of a document, to edits whose requests have the masks of what
they set; so does the content of every table; and every update that a task with compiled edits makes
has exact masks, however the task ends. -/
theorem updates_list_what_they_set (w : Writer σ) (font : String) :
    (∀ (d : Markdown.Document) start, 1 ≤ start →
      ∃ ops, d.compile font start = .ok ops ∧ ∀ request ∈ requests ops, ExactMask request) ∧
    (∀ given t start, Template.ofJson given = .ok t → 1 ≤ start → ∃ compiled,
      t.compile start = .ok compiled ∧ ∀ request ∈ requests compiled.operations, ExactMask request) ∧
    (∀ (j : Table.Job) ops, j.operations = .ok ops → ∀ request ∈ requests ops, ExactMask request) ∧
    ∀ id (c : Task) s, c.Compiled → ∃ r t xs, c.perform w id s = (r, t) ∧ s.Makes t xs ∧
      ∀ x ∈ xs, ∀ id' sent, x.call = .update id' sent → ∀ request ∈ sent, ExactMask request := by
  refine ⟨fun d start first => ?_, fun given t start read first => ?_, fun j ops filled => ?_,
    fun id c s compiled => ?_⟩
  · refine ⟨_, Markdown.compile_eq_batch font first d, exactMask_of_mem_requests ?_⟩
    exact masked_of_mem_batch (Markdown.masked_allPassages font d) start
  · obtain ⟨warnings, done⟩ := Template.compile_eq_batch (Template.proper_of_ofJson read) first
    refine ⟨_, done, exactMask_of_mem_requests ?_⟩
    exact masked_of_mem_batch (Template.masked_passages t) start
  · exact exactMask_of_mem_requests (Table.masked_operations filled)
  · obtain ⟨xs, made, _, all⟩ := c.only w id s
    refine ⟨_, _, xs, rfl, made, fun x hx id' sent update => ?_⟩
    have masked : x.call.Masked := all x hx compiled
    rwa [update] at masked

/-- Bold and centred, in a heading. -/
def adornment : Json :=
  .obj [("bold", .bool true), ("alignment", .str "center"), ("named_style", .str "heading1")]

def adornedTemplate : Json :=
  .obj [("title", .obj [("text", .str "T"), ("style", .obj [("italic", .bool true)])]),
    ("elements", .arr [.obj [("type", .str "text"), ("text", .str "x"), ("style", adornment)],
      .obj [("type", .str "list"), ("list_type", .str "bullet"), ("items", .arr [.str "y"]),
        ("indent", .num (.int 1))]])]

/-- A job that has claimed a table of one cell. -/
def headedJob : Table.Job where
  rows := 1
  columns := 1
  headers := ["A"]
  data := []
  state := .resolved ⟨2, 7, 1, 1, [[some 4]]⟩

theorem adorned_updates_list_what_they_set :
    (∃ ops, Markdown.quoted.compile "Mono" 2 = .ok ops ∧
      ∀ request ∈ requests ops, ExactMask request) ∧
    (∃ t compiled, Template.ofJson adornedTemplate = .ok t ∧ t.compile 1 = .ok compiled ∧
      ∀ request ∈ requests compiled.operations, ExactMask request) ∧
    (∃ ops, headedJob.operations = .ok ops ∧
      ∀ request ∈ requests ops, ExactMask request) ∧
    ∃ r t xs, (Task.edit (.styled "a" adornment)).perform scripted (some "doc") ⟨[], 0, []⟩ = (r, t) ∧
      Session.Makes ⟨[], 0, []⟩ t xs ∧
      ∀ x ∈ xs, ∀ id sent, x.call = .update id sent → ∀ request ∈ sent, ExactMask request := by
  obtain ⟨markdown, template, job, task⟩ := updates_list_what_they_set scripted "Mono"
  obtain ⟨t, read⟩ : ∃ t, Template.ofJson adornedTemplate = .ok t := ⟨_, by with_unfolding_all rfl⟩
  obtain ⟨compiled, done, exact⟩ := template adornedTemplate t 1 read (by decide)
  have filled : headedJob.operations = .ok (headedJob.fill ⟨2, 7, 1, 1, [[some 4]]⟩) := rfl
  exact ⟨markdown _ 2 (by decide), ⟨t, compiled, read, done, exact⟩,
    ⟨_, filled, job _ _ filled⟩, task _ (.edit (.styled "a" adornment)) _ trivial⟩

end Docwright.Writer
