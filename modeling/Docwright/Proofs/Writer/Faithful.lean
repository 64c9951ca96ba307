import Docwright.Proofs.Markdown.Placement
import Docwright.Proofs.Replay.Requests
import Docwright.Proofs.Template.Batch
import Docwright.Proofs.Writer.Session
import Docwright.Writer.Content
import Docwright.Writer.Structure

namespace Docwright.Writer

open Edit Replay

variable {σ : Type} {held : σ → List Content}

/-! ## Faithful services -/

/-- Snapshots tell where the document that is held ends, and batches that can be carried out on it
are. -/
structure Faithful (service : Call → σ → Except Failure Json × σ) (held : σ → List Content) :
    Prop where
  tells : ∀ id s, ∃ document next, service (.get id) s = (.ok document, next) ∧
    held next = held s ∧
    (Snapshot.ofJson document).getLast?.bind (·.stop) = some ((held s).length + 1 : Int)
  obeys : ∀ id requests s after, carryOutRequests (held s) requests = some after →
    ∃ answer next, service (.update id requests) s = (.ok answer, next) ∧ held next = after

def carryOutCall (document : List Content) : Call → Option (List Content)
  | .update _ requests => carryOutRequests document requests
  | .get _ | .create _ => some document

/-- The document after the requests of all calls, each carried out on what the ones before it have
left. -/
def carryOutCalls (document : List Content) (calls : List Call) : Option (List Content) :=
  calls.foldlM carryOutCall document

theorem carryOutCalls_singleton (document : List Content) (call : Call) :
    carryOutCalls document [call] = carryOutCall document call := by
  rw [carryOutCalls, List.foldlM_cons]
  exact bind_pure _

/-- From `s` to `t`, calls have turned the document into `after`. -/
def Turns (held : σ → List Content) (s t : Session σ) (after : List Content) : Prop :=
  held t.service = after ∧ ∃ xs, s.Makes t xs ∧
    carryOutCalls (held s.service) (xs.map Exchange.call) = some after

theorem Turns.none (s : Session σ) : Turns held s s (held s.service) :=
  ⟨rfl, [], .none s, rfl⟩

theorem Turns.trans {s t u : Session σ} {d e : List Content} (h : Turns held s t d)
    (h' : Turns held t u e) : Turns held s u e := by
  obtain ⟨rfl, xs, made, carried⟩ := h
  obtain ⟨rfl, ys, made', carried'⟩ := h'
  refine ⟨rfl, xs ++ ys, made.trans made', ?_⟩
  unfold carryOutCalls at carried carried' ⊢
  rw [List.map_append, List.foldlM_append, carried]
  exact carried'

theorem perform_of_answer (w : Writer σ) (operation : String) {call : Call} {s : Session σ}
    {v : Json} {next : σ} (h : w.service call s.service = (.ok v, next)) :
    ∃ x t, w.perform operation call s = (.ok v, t) ∧ t.service = next ∧ s.Makes t [x] ∧
      x.call = call := by
  have run : Retry.run w.policy w.draw (w.service call) s.draws s.service =
      ⟨.ok v, next, s.draws, [.called]⟩ := by
    unfold Retry.run Retry.tryFrom
    rw [h]
  unfold perform
  rw [run]
  exact ⟨_, _, rfl, rfl, List.filterMap_append, rfl⟩

theorem endIndex_of_stop {s : Snapshot} {n : Nat} (positive : 0 < n)
    (h : s.getLast?.bind (·.stop) = some (n + 1 : Int)) : s.endIndex = n := by
  obtain ⟨e, last, stop⟩ := Option.bind_eq_some_iff.mp h
  simp only [Snapshot.endIndex, last, stop, Option.getD_some]
  omega

section

variable {w : Writer σ} (faithful : Faithful w.service held) (id : DocumentId) {s : Session σ}

include faithful

theorem Faithful.fetch (filled : held s.service ≠ []) : ∃ document t,
    w.fetch id s = (.ok document, t) ∧ Turns held s t (held s.service) ∧
      (Snapshot.ofJson document).endIndex = (held s.service).length := by
  obtain ⟨document, next, answered, kept, stop⟩ := faithful.tells id s.service
  obtain ⟨x, t, fetched, served, made, call⟩ := perform_of_answer w "get_document" answered
  refine ⟨document, t, fetched, ⟨?_, [x], made, ?_⟩, ?_⟩
  · rw [served, kept]
  · rw [List.map_singleton, call, carryOutCalls_singleton]
    rfl
  · exact endIndex_of_stop (List.length_pos_iff.mpr filled) stop

theorem Faithful.submit {ops : List Operation} {after : List Content} (operation : String)
    (inside : carryOutRequests (held s.service) (requests ops) = some after) : ∃ v t,
    w.submit id ops operation s = (.ok v, t) ∧ Turns held s t after := by
  unfold Writer.submit
  cases empty : ops.isEmpty with
  | true =>
    rw [List.isEmpty_iff] at empty
    subst empty
    cases inside
    exact ⟨.null, s, rfl, .none s⟩
  | false =>
    obtain ⟨v, next, answered, obeyed⟩ := faithful.obeys id _ _ _ inside
    obtain ⟨x, t, sent, served, made, call⟩ := perform_of_answer w operation answered
    refine ⟨v, t, sent, by rw [served, obeyed], [x], made, ?_⟩
    rw [List.map_singleton, call, carryOutCalls_singleton]
    exact inside

theorem Faithful.submitEdits {ops : List Operation} {after : List Content} (operation : String)
    (inside : carryOutRequests (held s.service) (requests ops) = some after) : ∃ u t,
    w.submitEdits id operation (.ok ops) s = (.ok u, t) ∧ Turns held s t after := by
  obtain ⟨v, t, submitted, turned⟩ := faithful.submit id operation inside
  rw [submitEdits_ok]
  exact ⟨_, t, Action.bind_of_ok submitted _, turned⟩

/-- A call that goes on at the end of the document. -/
theorem Faithful.atEnd {body : List Content} (holds : held s.service = body ++ [lineEnd])
    {next : Int → Action σ Update} {after : List Content}
    (goes : ∀ t : Session σ, held t.service = body ++ [lineEnd] → ∃ u v,
      next (body.length + 1) t = (.ok u, v) ∧ Turns held t v after) : ∃ u v,
    (w.endOf id >>= next) s = (.ok u, v) ∧ Turns held s v after := by
  have filled : held s.service ≠ [] := by simp [holds]
  obtain ⟨document, t, fetched, kept, stop⟩ := faithful.fetch id filled
  have ends : (Snapshot.ofJson document).endIndex = (body.length : Int) + 1 := by
    simp [stop, holds]
  obtain ⟨u, v, went, turned⟩ := goes t (kept.1.trans holds)
  refine ⟨u, v, ?_, kept.trans turned⟩
  rw [endOf_bind, Action.bind_of_ok fetched, ends]
  exact went

/-- What is compiled for the end of the document goes in front of its last line end. -/
theorem Faithful.appendCompiled {body : List Content}
    (holds : held s.service = body ++ [lineEnd]) (operation : String) {ps : List Passage}
    (plain : ∀ p ∈ ps, p.Plain) {edits : Int → Except Refusal (List Operation)}
    (compiled : ∀ stop, 1 ≤ stop → edits stop = .ok (Replay.batch stop ps)) : ∃ u t,
    (w.endOf id >>= fun stop => w.submitEdits id operation (edits stop)) s = (.ok u, t) ∧
      Turns held s t (body ++ written ps ++ [lineEnd]) := by
  refine faithful.atEnd id holds fun t holds' => ?_
  have inside := carryOutRequests_batch (c := body.length + 1) body (by omega) (Int.le_refl _) plain
  have offset : ((body.length : Int) + 1 - 1).toNat = body.length := by omega
  have whole : front body (body.length + 1) = body ∧ back body (body.length + 1) = [] := by
    simp only [front, back, offset, List.take_length, List.drop_length, and_self]
  rw [whole.1, whole.2, List.append_nil, ← holds'] at inside
  rw [compiled _ (by omega)]
  exact faithful.submitEdits id operation inside

theorem Faithful.append {body : List Content} (holds : held s.service = body ++ [lineEnd])
    (operation : String) (ps : List Passage) (plain : ∀ p ∈ ps, p.Plain)
    {build : Builder → Except Refusal Builder} (builds : ∀ b, build b = .ok (extend b ps)) :
    ∃ u t, w.append id operation build s = (.ok u, t) ∧
      Turns held s t (body ++ written ps ++ [lineEnd]) :=
  faithful.appendCompiled id holds operation plain fun _ first => editsAt_eq first build (builds _)

/-- What is written at the front goes in front of everything. -/
theorem Faithful.prepend {body : List Content} (holds : held s.service = body ++ [lineEnd])
    (operation text : String) : ∃ u t,
    w.submitEdits id operation (editsAt 1 fun b => .ok (b.insertText text)) s = (.ok u, t) ∧
      Turns held s t (textContents text ++ body ++ [lineEnd]) := by
  have built : editsAt 1 (fun b => .ok (b.insertText text)) =
      .ok (Replay.batch 1 [.text text []]) := by
    rw [editsAt_eq (Int.le_refl 1) (fun b => .ok (b.insertText text)) rfl, insertText_eq_extend]
    rfl
  have inside := carryOutRequests_batch body (Int.le_refl 1) (by omega)
    (List.forall_mem_singleton.mpr (plain_text text))
  have whole : front body 1 = [] ∧ back body 1 = body := ⟨rfl, rfl⟩
  rw [whole.1, whole.2, written_text, List.nil_append, ← holds] at inside
  rw [built]
  exact faithful.submitEdits id operation inside

end

/-! ## What can be written -/

/-- The text that Markdown inserts. -/
def markdownText (font text : String) : String :=
  match Markdown.compile font text 1 with
  | .ok ops => String.join (insertedTexts ops)
  | .error _ => ""

def markdownPassages (font text : String) : List Passage :=
  if Text.allBlank text then [] else Markdown.allPassages font (Markdown.Document.read text)

theorem sound_markdownPassages (font text : String) :
    ∀ p ∈ markdownPassages font text, Markdown.Sound p := by
  unfold markdownPassages
  split
  · exact List.forall_mem_nil _
  · exact Markdown.sound_allPassages font _

theorem compile_markdown (font text : String) {stop : Int} (first : 1 ≤ stop) :
    Markdown.compile font text stop = .ok (Replay.batch stop (markdownPassages font text)) := by
  unfold Markdown.compile markdownPassages
  split
  · rfl
  · exact Markdown.compile_eq_batch font first _

theorem written_markdown (font text : String) :
    written (markdownPassages font text) = textContents (markdownText font text) := by
  have texts : ∀ p ∈ markdownPassages font text, p.IsText :=
    fun p hp => (sound_markdownPassages font text p hp).1
  rw [written, contents_flow 0 texts, markdownText, compile_markdown font text (Int.le_refl 1)]
  simp only [insertedTexts_batch 1 texts]

theorem Faithful.appendMarkdown {w : Writer σ} (faithful : Faithful w.service held)
    (id : DocumentId) {s : Session σ} {body : List Content}
    (holds : held s.service = body ++ [lineEnd]) (text : String) : ∃ u t,
    w.appendMarkdown id text s = (.ok u, t) ∧
      Turns held s t (body ++ textContents (markdownText w.codeFont text) ++ [lineEnd]) := by
  have plain : ∀ p ∈ markdownPassages w.codeFont text, p.Plain := fun p hp =>
    have sound := sound_markdownPassages w.codeFont text p hp
    ⟨sound.1.flows, sound.2⟩
  rw [← written_markdown]
  exact faithful.appendCompiled id holds "insert_markdown" plain fun _ first =>
    compile_markdown w.codeFont text first

/-- Clearing a document leaves its last line end. -/
theorem clearing_clears (body : List Content) : ∃ ops, clearing (body.length + 1) = .ok ops ∧
    carryOutRequests (body ++ [lineEnd]) (requests ops) = some [lineEnd] := by
  unfold clearing
  cases body with
  | nil => exact ⟨[], rfl, rfl⟩
  | cons c cs =>
    let all : Span := ⟨1, (c :: cs).length + 1, by omega⟩
    have span : Span.of 1 ((c :: cs).length + 1) = .ok all := dif_pos _
    have holds : Holds (before (c :: cs)) all := by simp [Holds, all]
    have nothing : cutOut (before (c :: cs)) all = [] := by simp [cutOut, all, before]
    have filled : (1 : Int) < (c :: cs).length + 1 := by simp only [List.length_cons]; omega
    refine ⟨[.delete all], ?_, ?_⟩
    · rw [if_pos filled, span]
      rfl
    · have cleared := on_delete_of_holds holds
      rw [nothing, contents_before] at cleared
      rw [requests, List.map_singleton, carryOutRequests_singleton, carryOutRequest,
        readRequest_request]
      exact cleared

/-- A call that writes text, breaks or Markdown. -/
inductive Editing where
  | append (text : String)
  | prepend (text : String)
  | contentsMarker
  | styled (text : String) (style : Json)
  | list (kind : String) (items : List String) (indent : Int)
  | pageBreak
  | rule
  | markdown (text : String)
  | replacement (text : String)

namespace Editing

def perform (w : Writer σ) (id : DocumentId) : Editing → Action σ Update
  | .append text => w.appendText id text
  | .prepend text => w.prependText id text
  | .contentsMarker => w.prependContentsMarker id
  | .styled text style => w.appendStyled id text style
  | .list kind items indent => w.appendList id kind items indent
  | .pageBreak => w.appendPageBreak id
  | .rule => w.appendRule id
  | .markdown text => w.appendMarkdown id text
  | .replacement text => w.replaceWithMarkdown id text

/-- The arguments pass the checks of the call. -/
def Valid : Editing → Prop
  | .append text | .prepend text => checkText text = .ok ()
  | .styled text style => checkText text = .ok () ∧ ∃ f, readStyle style = .ok f
  | .list kind items indent => ∃ read, readList kind items indent = .ok read
  | _ => True

/-- What becomes of the text in front of the last line end. -/
def on (font : String) (body : List Content) : Editing → List Content
  | .append text | .styled text _ => body ++ textContents text
  | .prepend text => textContents text ++ body
  | .contentsMarker => textContents Writer.contentsMarker ++ body
  | .list _ items _ => body ++ textContents (String.join (items.map (· ++ "\n")))
  | .pageBreak => body ++ List.replicate 2 .pageBreak
  | .rule => body ++ textContents Builder.ruleText
  | .markdown text => body ++ textContents (markdownText font text)
  | .replacement text => textContents (markdownText font text)

end Editing

theorem checkText_eq_ok {text : String} (h : checkText text = .ok ()) : text ≠ "" := by
  intro empty
  rw [checkText, if_pos empty] at h
  cases h

theorem readList_eq_ok {kind : String} {items : List String} {indent : Int} {read : Style.ListKind}
    (h : readList kind items indent = .ok read) : items ≠ [] := by
  unfold readList at h
  cases hk : Style.ListKind.read kind with
  | error r => rw [hk] at h; cases h
  | ok k =>
    cases hi : Style.checkItems items with
    | error r => rw [hk, hi] at h; cases h
    | ok checked => exact (Template.checkItems_eq_ok hi).1

/-- Each call succeeds, and changes the text as it should. -/
theorem Faithful.editing {w : Writer σ} (faithful : Faithful w.service held) (id : DocumentId)
    {c : Editing} (valid : c.Valid) {s : Session σ} {body : List Content}
    (holds : held s.service = body ++ [lineEnd]) : ∃ u t, c.perform w id s = (.ok u, t) ∧
      Turns held s t (c.on w.codeFont body ++ [lineEnd]) := by
  cases c with
  | append text =>
    have checked : checkText text = .ok () := valid
    simp only [Editing.perform, appendText, checked, Action.settled_ok, pure_bind]
    have wrote := faithful.append id holds "append_text" [.text text []]
      (List.forall_mem_singleton.mpr (plain_text text)) fun b => congrArg _ (insertText_eq_extend b text)
    rwa [written_text] at wrote
  | prepend text =>
    have checked : checkText text = .ok () := valid
    simp only [Editing.perform, prependText, checked, Action.settled_ok, pure_bind]
    exact faithful.prepend id holds "prepend_text" text
  | contentsMarker => exact faithful.prepend id holds "insert_toc" Writer.contentsMarker
  | styled text style =>
    obtain ⟨checked, f, read⟩ := valid
    simp only [Editing.perform, appendStyled, checked, read, Action.settled_ok, pure_bind]
    have whole := Template.whole_textPassage text (checkText_eq_ok checked) f
    have wrote := faithful.append id holds "append_formatted" [Template.textPassage text f]
      (List.forall_mem_singleton.mpr ⟨trivial, whole.fits⟩)
      fun b => Template.writeText_eq_extend b text f
    rwa [Template.textPassage, written_text] at wrote
  | list kind items indent =>
    obtain ⟨read, checked⟩ := valid
    have explained : explain (readList kind items indent) = .ok read := by rw [checked]; rfl
    simp only [Editing.perform, appendList, explained, Action.settled_ok, pure_bind]
    have whole := Template.whole_listPassage read (readList_eq_ok checked) indent
    have wrote := faithful.append id holds "insert_list" [Template.listPassage read items indent]
      (List.forall_mem_singleton.mpr ⟨trivial, whole.fits⟩)
      fun b => Template.writeList_eq_extend b read items indent
    rwa [Template.listPassage, written_text] at wrote
  | pageBreak =>
    exact faithful.append id holds "insert_page_break" [.pageBreak]
      (List.forall_mem_singleton.mpr ⟨trivial, trivial⟩) fun b => congrArg _ (insertPageBreak_eq_extend b)
  | rule =>
    have wrote := faithful.append id holds "insert_horizontal_rule" [.text Builder.ruleText []]
      (List.forall_mem_singleton.mpr (plain_text _)) fun b => congrArg _ (insertText_eq_extend b _)
    rwa [written_text] at wrote
  | markdown text => exact faithful.appendMarkdown id holds text
  | replacement text =>
    refine faithful.atEnd id holds fun t holds' => ?_
    obtain ⟨ops, cleared, inside⟩ := clearing_clears body
    rw [← holds'] at inside
    obtain ⟨u, v, submitted, turned⟩ := faithful.submitEdits id "clear_body" inside
    have empty : held v.service = [] ++ [lineEnd] := turned.1
    obtain ⟨u', v', wrote, turned'⟩ := faithful.appendMarkdown id empty text
    rw [List.nil_append] at turned'
    refine ⟨u', v', ?_, turned.trans turned'⟩
    rw [cleared, Action.bind_of_ok submitted]
    exact wrote

/-- Calls with valid arguments all succeed against a faithful service, whatever it holds at first.
Every request addresses positions of the document as it is when the request is carried out, and none
touches the last line end: what is appended goes right in front of it, what is prepended goes in
front of everything, and a replacement leaves nothing else than what its Markdown inserts. -/
theorem editings_stay_inside {w : Writer σ} (faithful : Faithful w.service held) (id : DocumentId)
    {cs : List Editing} (valid : ∀ c ∈ cs, c.Valid) {s : Session σ} {body : List Content}
    (holds : held s.service = body ++ [lineEnd]) :
    ∃ us t xs, cs.mapM (Editing.perform w id) s = (.ok us, t) ∧ s.Makes t xs ∧
      carryOutCalls (body ++ [lineEnd]) (xs.map Exchange.call) = some (held t.service) ∧
      held t.service = cs.foldl (Editing.on w.codeFont) body ++ [lineEnd] := by
  have turns : ∃ us t, cs.mapM (Editing.perform w id) s = (.ok us, t) ∧
      Turns held s t (cs.foldl (Editing.on w.codeFont) body ++ [lineEnd]) := by
    induction cs generalizing s body with
    | nil => exact ⟨[], s, rfl, holds ▸ .none s⟩
    | cons c cs ih =>
      obtain ⟨u, t, performed, first⟩ := faithful.editing id (valid c List.mem_cons_self) holds
      obtain ⟨us, v, others, rest⟩ := ih (fun d hd => valid d (List.mem_cons_of_mem _ hd)) first.1
      refine ⟨u :: us, v, ?_, first.trans rest⟩
      rw [List.mapM_cons, Action.bind_of_ok performed, Action.bind_of_ok others]
      rfl
  obtain ⟨us, t, performed, after, xs, made, carried⟩ := turns
  refine ⟨us, t, xs, performed, made, ?_, after⟩
  rw [← holds, carried, after]

/-- Holds a document, and carries out what can be carried out on it. -/
def keeper : Writer (List Content) where
  service
    | .get _, document => (.ok (.obj [("body", .obj [("content",
        .arr [.obj [("endIndex", .num (.int (document.length + 1)))]])])]), document)
    | .update _ requests, document =>
      match carryOutRequests document requests with
      | some after => (.ok .null, after)
      | none => (.error (.foreign "ValueError" "out of bounds"), document)
    | .create _, document => (.ok .null, document)
  policy := .standard
  draw _ := 1
  codeFont := "Roboto Mono"

theorem faithful_keeper : Faithful keeper.service id where
  tells _ s := ⟨_, s, rfl, rfl, rfl⟩
  obeys name requests s after h := by
    refine ⟨.null, after, ?_, rfl⟩
    simp only [keeper, id_eq] at h ⊢
    rw [h]

/-- A document that is written anew in between. -/
def mixedEditings : List Editing :=
  [.append "a𝔸", .prepend "b", .pageBreak, .replacement "# T", .list "bullet" ["c", "d"] 1,
    .styled "e" (.obj [("bold", .bool true)])]

theorem mixedEditings_valid : ∀ c ∈ mixedEditings, c.Valid := by
  intro c hc
  simp only [mixedEditings, List.mem_cons, List.not_mem_nil, or_false] at hc
  rcases hc with rfl | rfl | rfl | rfl | rfl | rfl
  · exact rfl
  · exact rfl
  · trivial
  · trivial
  · exact ⟨.bullet, by with_unfolding_all rfl⟩
  · exact ⟨rfl, _, by with_unfolding_all rfl⟩

def opened : Session (List Content) :=
  ⟨[.unit 72] ++ [lineEnd], 0, []⟩

theorem mixedEditings_stay_inside : ∃ us t xs,
    mixedEditings.mapM (Editing.perform keeper (some "doc")) opened = (.ok us, t) ∧
    opened.Makes t xs ∧
    carryOutCalls ([.unit 72] ++ [lineEnd]) (xs.map Exchange.call) = some t.service ∧
    t.service = mixedEditings.foldl (Editing.on keeper.codeFont) [.unit 72] ++ [lineEnd] := by
  have holds : id opened.service = [.unit 72] ++ [lineEnd] := rfl
  exact editings_stay_inside faithful_keeper (some "doc") mixedEditings_valid holds

end Docwright.Writer
