import Docwright.Proofs.Replay.Passage

/-!
Requests as the service reads and carries them out. Every document ends with a line end, which
nothing can follow and which cannot be deleted. A request that addresses a position outside of the
document has no result, and neither has one that would take the last line end away. A batch that
can be replayed on a document without its last line end is carried out on the document
(`carryOutRequests_of_replayFrom`).
-/

namespace Docwright.Replay

open Edit

/-- What a request asks for. Formats leave the text as it is. -/
inductive Effect where
  | insert (index : Int) (new : List Content)
  | delete (start stop : Int)
  | format (start stop : Int)

def requestIndex (body : Json) : Option Int :=
  (body.get? "location").bind (Snapshot.integer · "index")

def requestRange (body : Json) (effect : Int → Int → Effect) : Option Effect :=
  (body.get? "range").bind fun range =>
    (Snapshot.integer range "startIndex").bind fun start =>
      (Snapshot.integer range "endIndex").map (effect start)

/-- The effect of a request of a kind. Tables and replacements have none here. -/
def readBody (kind : String) (body : Json) : Option Effect :=
  if kind = "insertText" then
    (requestIndex body).bind fun index =>
      ((body.get? "text").bind Json.str?).map fun text => .insert index (textContents text)
  else if kind = "insertPageBreak" then
    (requestIndex body).map fun index => .insert index (List.replicate 2 .pageBreak)
  else if kind = "deleteContentRange" then requestRange body .delete
  else if kind = "updateParagraphStyle" ∨ kind = "updateTextStyle" ∨ kind = "createParagraphBullets" then
    requestRange body .format
  else none

def readRequest : Json → Option Effect
  | .obj [(kind, body)] => readBody kind body
  | _ => none

/-- The document after an effect, if all that it addresses is there and the last line end stays. -/
def Effect.on (document : List Content) : Effect → Option (List Content)
  | .insert index new =>
    if 1 ≤ index ∧ index ≤ document.length then
      some (document.take (index - 1).toNat ++ new ++ document.drop (index - 1).toNat)
    else none
  | .delete start stop =>
    if 1 ≤ start ∧ start ≤ stop ∧ stop ≤ document.length then
      some (document.take (start - 1).toNat ++ document.drop (stop - 1).toNat)
    else none
  | .format start stop =>
    if 1 ≤ start ∧ start ≤ stop ∧ stop ≤ document.length + 1 then some document else none

section

variable {document : List Content}

theorem on_insert {index : Int} (first : 1 ≤ index) (last : index ≤ document.length)
    (new : List Content) :
    (Effect.insert index new).on document = some (front document index ++ new ++ back document index) :=
  if_pos ⟨first, last⟩

theorem on_delete {start stop : Int} (first : 1 ≤ start) (ordered : start ≤ stop)
    (last : stop ≤ document.length) :
    (Effect.delete start stop).on document = some (front document start ++ back document stop) :=
  if_pos ⟨first, ordered, last⟩

theorem on_format {start stop : Int} (first : 1 ≤ start) (ordered : start ≤ stop)
    (last : stop ≤ document.length + 1) :
    (Effect.format start stop).on document = some document :=
  if_pos ⟨first, ordered, last⟩

end

/-- An effect that brings something, or that covers something. -/
def Effect.Filled : Effect → Prop
  | .insert _ new => new ≠ []
  | .delete start stop | .format start stop => start < stop

def carryOutRequest (document : List Content) (request : Json) : Option (List Content) :=
  (readRequest request).bind (Effect.on document)

/-- The document after a batch of requests, carried out in order. -/
def carryOutRequests (document : List Content) (requests : List Json) : Option (List Content) :=
  requests.foldlM carryOutRequest document

/-- What an edit asks for, if it is neither a table nor a replacement. -/
def effectOf : Operation → Option Effect
  | .insertText index text => some (.insert index (textContents text))
  | .insertPageBreak index => some (.insert index (List.replicate 2 .pageBreak))
  | .delete s => some (.delete s.start s.stop)
  | .nameParagraphs s _ | .styleText s _ _ | .createList s _ | .formatParagraphs s _ _ =>
    some (.format s.start s.stop)
  | .insertTable .. | .replaceAll .. => none

theorem readRequest_request (op : Operation) : readRequest op.request = effectOf op := by
  cases op <;>
    simp [Operation.request, readRequest, readBody, effectOf, requestIndex, requestRange, location,
      Span.toJson, Snapshot.integer, Json.get?, Json.members, Json.lookup, Json.int?, Json.str?]

theorem carryOutRequests_cons (document : List Content) (op : Operation) (ops : List Operation) :
    carryOutRequests document (requests (op :: ops)) =
      ((effectOf op).bind (Effect.on document)).bind fun next =>
        carryOutRequests next (requests ops) := by
  simp only [carryOutRequests, requests, List.map_cons, List.foldlM_cons, carryOutRequest,
    readRequest_request, Option.bind_eq_bind]

theorem carryOutRequests_append (document : List Content) (ops more : List Operation) :
    carryOutRequests document (requests (ops ++ more)) =
      (carryOutRequests document (requests ops)).bind fun next =>
        carryOutRequests next (requests more) := by
  simp only [carryOutRequests, requests, List.map_append, List.foldlM_append, Option.bind_eq_bind]

theorem contents_breakMarks (n : Nat) : contents (breakMarks n) = List.replicate 2 .pageBreak :=
  rfl

theorem on_insert_of_splice {b new c : Body} {index : Int} (h : splice b index new = some c) :
    (Effect.insert index (contents new)).on (contents b ++ [lineEnd]) =
      some (contents c ++ [lineEnd]) := by
  unfold splice at h
  split at h
  · next inside =>
    obtain ⟨first, last⟩ := inside
    cases h
    have length : (contents b).length = b.length := List.length_map _
    have inside : 1 ≤ index ∧ index ≤ ((contents b ++ [lineEnd]).length : Int) := by
      simp only [List.length_append, List.length_singleton, length]
      omega
    have offset : (index - 1).toNat ≤ (contents b).length := by omega
    refine (if_pos inside).trans ?_
    rw [List.take_append_of_le_length offset, List.drop_append_of_le_length offset]
    simp only [contents, List.map_append, List.map_take, List.map_drop, List.append_assoc]
  · cases h

theorem on_delete_of_holds {b : Body} {s : Span} (h : Holds b s) :
    (Effect.delete s.start s.stop).on (contents b ++ [lineEnd]) =
      some (contents (cutOut b s) ++ [lineEnd]) := by
  obtain ⟨first, last⟩ := h
  have ordered := s.ordered
  have length : (contents b).length = b.length := List.length_map _
  have inside : 1 ≤ s.start ∧ s.start ≤ s.stop ∧ s.stop ≤ ((contents b ++ [lineEnd]).length : Int) := by
    simp only [List.length_append, List.length_singleton, length]
    omega
  have front : (s.start - 1).toNat ≤ (contents b).length := by omega
  have back : (s.stop - 1).toNat ≤ (contents b).length := by omega
  refine (if_pos inside).trans ?_
  rw [List.take_append_of_le_length front, List.drop_append_of_le_length back]
  simp only [contents, cutOut, List.map_append, List.map_take, List.map_drop, List.append_assoc]

theorem on_format_of_holds {b : Body} {s : Span} (h : Holds b s) :
    (Effect.format s.start s.stop).on (contents b ++ [lineEnd]) = some (contents b ++ [lineEnd]) := by
  obtain ⟨first, last⟩ := h
  have ordered := s.ordered
  have length : (contents b).length = b.length := List.length_map _
  refine if_pos ⟨first, ordered, ?_⟩
  simp only [List.length_append, List.length_singleton, length]
  omega

/-- An edit that can be carried out in front of the last line end is carried out by its request. -/
theorem carryOutRequest_of_carryOut {lay : Nat → Layout} {n : Nat} {b c : Body} {op : Operation}
    (plain : effectOf op ≠ none) (h : carryOut lay n b op = some c) :
    carryOutRequest (contents b ++ [lineEnd]) op.request = some (contents c ++ [lineEnd]) := by
  unfold carryOutRequest
  rw [readRequest_request]
  cases op with
  | insertText index text =>
    rw [← on_insert_of_splice h, contents_textMarks]
    rfl
  | insertPageBreak index =>
    rw [← on_insert_of_splice h, contents_breakMarks]
    rfl
  | delete s =>
    simp only [carryOut] at h
    split at h
    · next holds =>
      cases h
      exact on_delete_of_holds holds
    · cases h
  | nameParagraphs s | styleText s | createList s | formatParagraphs s =>
    simp only [carryOut] at h
    split at h
    · next holds =>
      cases h
      exact on_format_of_holds holds
    · cases h
  | insertTable | replaceAll => exact absurd rfl plain

theorem carryOutRequests_singleton (document : List Content) (request : Json) :
    carryOutRequests document [request] = carryOutRequest document request := by
  rw [carryOutRequests, List.foldlM_cons]
  exact bind_pure _

theorem carryOutRequests_of_replayFrom {lay : Nat → Layout} {n : Nat} {b c : Body}
    {ops : List Operation} (plain : ∀ op ∈ ops, effectOf op ≠ none)
    (h : replayFrom lay n b ops = some c) :
    carryOutRequests (contents b ++ [lineEnd]) (requests ops) = some (contents c ++ [lineEnd]) := by
  induction ops generalizing n b with
  | nil =>
    cases h
    rfl
  | cons op ops ih =>
    obtain ⟨next, first, rest⟩ := Option.bind_eq_some_iff.mp h
    have here := carryOutRequest_of_carryOut (plain op List.mem_cons_self) first
    have there := ih (fun o ho => plain o (List.mem_cons_of_mem _ ho)) rest
    unfold carryOutRequests requests at there ⊢
    rw [List.map_cons, List.foldlM_cons, here]
    exact there

/-- The passage is no table. -/
def Passage.Flows : Passage → Prop
  | .table .. => False
  | _ => True

theorem Passage.IsText.flows {p : Passage} (h : p.IsText) : p.Flows := by
  cases p with
  | text | pageBreak => trivial
  | table => exact h

theorem Ranged.effectOf_edit (c : Int) (r : Ranged) : effectOf (r.edit c) ≠ none := by
  unfold Ranged.edit
  cases r.format <;> exact Option.some_ne_none _

theorem Passage.effectOf_edits (c : Int) {p : Passage} (h : p.Flows) :
    ∀ op ∈ p.edits c, effectOf op ≠ none := by
  cases p with
  | text content ranges =>
    intro op hop
    rcases List.mem_append.mp hop with hop | hop
    · split at hop
      · cases hop
      · rw [List.mem_singleton.mp hop]
        exact Option.some_ne_none _
    · obtain ⟨r, _, rfl⟩ := List.mem_map.mp hop
      exact r.effectOf_edit c
  | pageBreak => exact List.forall_mem_singleton.mpr (Option.some_ne_none _)
  | table => exact h.elim

theorem effectOf_batch (c : Int) {ps : List Passage} (h : ∀ p ∈ ps, p.Flows) :
    ∀ op ∈ batch c ps, effectOf op ≠ none := by
  induction ps generalizing c with
  | nil => exact List.forall_mem_nil _
  | cons p ps ih =>
    intro op hop
    rcases List.mem_append.mp hop with hop | hop
    · exact p.effectOf_edits c (h p List.mem_cons_self) op hop
    · exact ih _ (fun q hq => h q (List.mem_cons_of_mem _ hq)) op hop

theorem stack_of_flows (lay : Nat → Layout) (n : Nat) {ps : List Passage} (h : ∀ p ∈ ps, p.Flows) :
    stack lay n ps = [] := by
  induction ps generalizing n with
  | nil => rfl
  | cons p ps ih =>
    have tail := ih (n + p.count) fun q hq => h q (List.mem_cons_of_mem _ hq)
    cases p with
    | text | pageBreak => simp only [stack, tail, Passage.tableMarks, List.append_nil]
    | table => exact (h _ List.mem_cons_self).elim

/-- The passage is a text with its ranges inside, or a break. -/
def Passage.Plain (p : Passage) : Prop :=
  p.Flows ∧ p.Fits

theorem plain_text (text : String) : (Passage.text text []).Plain :=
  ⟨trivial, List.forall_mem_nil _⟩

/-- What passages write. -/
def written (ps : List Passage) : List Content :=
  contents (flow 0 ps)

theorem written_text (text : String) (ranges : List Ranged) :
    written [.text text ranges] = textContents text := by
  simp only [written, flow, Passage.marks, List.append_nil, contents_textMarks]

/-- The requests of a batch put what it writes in front of what was at the position. -/
theorem carryOutRequests_batch {c : Int} (body : List Content) {ps : List Passage} (first : 1 ≤ c)
    (last : c ≤ body.length + 1) (plain : ∀ p ∈ ps, p.Plain) :
    carryOutRequests (body ++ [lineEnd]) (requests (batch c ps)) =
      some (front body c ++ written ps ++ back body c ++ [lineEnd]) := by
  have flows : ∀ p ∈ ps, p.Flows := fun p hp => (plain p hp).1
  have replayed := replay_batch (fun _ => ⟨0, []⟩) first last fun p hp => (plain p hp).2
  have carried := carryOutRequests_of_replayFrom (effectOf_batch c flows) replayed
  simpa only [contents_before, outcome, contents_append, stack_of_flows _ 0 flows, written,
    List.nil_append, List.append_assoc] using carried

end Docwright.Replay
