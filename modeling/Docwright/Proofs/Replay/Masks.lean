import Docwright.Proofs.Replay.Passage
import Docwright.Proofs.Style.Mask
import Mathlib.Data.List.Nodup

/-!
Masks in requests. An update that sets fields comes with a mask, which is to name just those
fields: a field that the mask leaves out is not set, and a name without a field is reset. The
request of an edit has an exact mask if the edit sets something and has the mask of what it sets
(`exactMask_request`).
-/

namespace Docwright.Json

theorem put_of_not_mem {name : String} {members : List (String × Json)}
    (new : name ∉ members.map (·.1)) (value : Json) :
    put name value members = members ++ [(name, value)] := by
  induction members with
  | nil => rfl
  | cons m rest ih =>
    obtain ⟨other, later⟩ := not_or.mp (List.mem_cons.not.mp new)
    rw [put, if_neg (Ne.symm other), ih later, List.cons_append]

theorem foldl_put (members pairs : List (String × Json))
    (once : ((members ++ pairs).map (·.1)).Nodup) :
    pairs.foldl (fun members p => put p.1 p.2 members) members = members ++ pairs := by
  induction pairs generalizing members with
  | nil => exact (List.append_nil members).symm
  | cons p rest ih =>
    have new : p.1 ∉ members.map (·.1) := by
      rw [List.map_append, List.map_cons] at once
      intro present
      exact List.disjoint_of_nodup_append once present List.mem_cons_self
    rw [List.foldl_cons, put_of_not_mem new, ih _ (by rwa [List.append_cons] at once),
      List.append_assoc, List.singleton_append]

/-- Pairs with different names are the members of their object. -/
theorem ofPairs_of_nodup {pairs : List (String × Json)} (once : (pairs.map (·.1)).Nodup) :
    ofPairs pairs = .obj pairs :=
  congrArg Json.obj (foldl_put [] pairs once)

end Docwright.Json

namespace Docwright.Style

/-- A mask for fields: it names each of them once, and nothing else. -/
structure Lists (mask : String) (fields : List (String × Json)) : Prop where
  nonempty : mask ≠ ""
  names : maskNames mask = fields.map (·.1)
  once : (fields.map (·.1)).Nodup

theorem lists_maskOf {names : List String} {fields : List (String × Json)} (named : Named names fields)
    (proper : ∀ name ∈ names, IsFieldName name) (once : names.Nodup) (filled : fields ≠ []) :
    Lists (maskOf fields) fields where
  nonempty := maskOf_ne_empty filled (named.isFieldName proper)
  names := maskNames_maskOf (named.isFieldName proper)
  once := List.Sublist.nodup named once

theorem TextStyle.lists_mask {s : TextStyle} (filled : s.fields ≠ []) : Lists s.mask s.fields :=
  lists_maskOf s.named (by decide) (by decide) filled

theorem ParagraphFormat.lists_mask {f : ParagraphFormat} (filled : f.fields ≠ []) :
    Lists (maskOf f.fields) f.fields :=
  lists_maskOf f.named (by decide) (by decide) filled

theorem lists_singleton {name : String} (proper : IsFieldName name) (value : Json) :
    Lists name [(name, value)] :=
  lists_maskOf (named_singleton name value) (List.forall_mem_singleton.mpr proper)
    (List.nodup_singleton name) (List.cons_ne_nil _ _)

end Docwright.Style

namespace Docwright.Replay

open Edit Style

/-- The requests that set fields, with the member that holds the fields. -/
def styleUpdates : List (String × String) :=
  [("updateTextStyle", "textStyle"), ("updateParagraphStyle", "paragraphStyle")]

/-- If the request sets fields, its mask lists them. -/
def ExactMask (request : Json) : Prop :=
  ∀ kind ∈ styleUpdates, ∀ update, request.get? kind.1 = some update →
    ∃ mask fields, update.get? "fields" = some (.str mask) ∧
      update.get? kind.2 = some (.obj fields) ∧ Lists mask fields

/-- A format that sets something has the mask of all that it sets. -/
def Format.Masked : Format → Prop
  | .characters style mask => Lists mask style.fields
  | .lines fields mask => Lists mask fields
  | .named _ | .list _ => True

/-- Every range of a passage is set to a format with the mask of all that it sets. -/
def Passage.Masked : Passage → Prop
  | .text _ ranges => ∀ r ∈ ranges, r.format.Masked
  | .pageBreak | .table .. => True

end Docwright.Replay

namespace Docwright.Edit

open Replay

/-- An edit that sets a range sets it to a format with the mask of all that it sets. -/
def Operation.Masked (op : Operation) : Prop :=
  ∀ span format, rangeOf op = some (span, format) → format.Masked

theorem masked_of_no_range {op : Operation} (none : rangeOf op = none) : op.Masked := by
  intro span format range
  rw [none] at range
  cases range

theorem masked_over {f : Format} (h : f.Masked) (span : Span) : (f.over span).Masked := by
  intro s g range
  rw [rangeOf_over] at range
  cases range
  exact h

end Docwright.Edit

namespace Docwright.Replay

open Edit Style

/-- A request of one kind, whose mask is exact if it is of a kind that sets fields. -/
theorem exactMask_single {kind : String} {update : Json}
    (exact : ∀ holder, (kind, holder) ∈ styleUpdates → ∃ mask fields,
      update.get? "fields" = some (.str mask) ∧ update.get? holder = some (.obj fields) ∧
        Lists mask fields) : ExactMask (.obj [(kind, update)]) := by
  rintro ⟨named, holder⟩ known body given
  by_cases same : kind = named
  · subst same
    have whole : update = body := by simpa [Json.get?, Json.members, Json.lookup] using given
    subst whole
    exact exact holder known
  · simp [Json.get?, Json.members, Json.lookup, same] at given

theorem exactMask_other {kind : String} (other : ∀ update ∈ styleUpdates, update.1 ≠ kind)
    (body : Json) : ExactMask (.obj [(kind, body)]) :=
  exactMask_single fun _ known => absurd rfl (other _ known)

theorem exactMask_request {op : Operation} (h : op.Masked) : ExactMask op.request := by
  cases op with
  | styleText span style mask =>
    refine exactMask_single fun holder known => ?_
    obtain rfl : holder = "textStyle" := by simpa [styleUpdates] using known
    exact ⟨mask, style.fields, rfl, rfl, h _ _ rfl⟩
  | formatParagraphs span fields mask =>
    have lists : Lists mask fields := h _ _ rfl
    refine exactMask_single fun holder known => ?_
    obtain rfl : holder = "paragraphStyle" := by simpa [styleUpdates] using known
    exact ⟨mask, fields, rfl, congrArg some (Json.ofPairs_of_nodup lists.once), lists⟩
  | nameParagraphs span style =>
    refine exactMask_single fun holder known => ?_
    obtain rfl : holder = "paragraphStyle" := by simpa [styleUpdates] using known
    exact ⟨_, _, rfl, rfl, lists_singleton (by decide) _⟩
  | insertText | createList | insertTable | insertPageBreak | delete | replaceAll =>
    exact exactMask_other (by decide) _

theorem masked_of_mem_edits {p : Passage} (h : p.Masked) {c : Int} :
    ∀ op ∈ p.edits c, op.Masked := by
  cases p with
  | pageBreak | table => exact List.forall_mem_singleton.mpr (masked_of_no_range rfl)
  | text content ranges =>
    intro op hop
    rcases List.mem_append.mp hop with inserted | ranged
    · split at inserted
      · cases inserted
      · rw [List.mem_singleton.mp inserted]
        exact masked_of_no_range rfl
    · obtain ⟨r, hr, rfl⟩ := List.mem_map.mp ranged
      exact masked_over (h r hr) _

theorem masked_of_mem_batch {ps : List Passage} (h : ∀ p ∈ ps, p.Masked) (c : Int) :
    ∀ op ∈ batch c ps, op.Masked := by
  induction ps generalizing c with
  | nil => exact List.forall_mem_nil _
  | cons p ps ih =>
    intro op hop
    rcases List.mem_append.mp hop with here | later
    · exact masked_of_mem_edits (h p List.mem_cons_self) op here
    · exact ih (fun q hq => h q (List.mem_cons_of_mem _ hq)) _ op later

/-- Requests of edits with the masks of what they set. -/
theorem exactMask_of_mem_requests {ops : List Operation} (h : ∀ op ∈ ops, op.Masked) :
    ∀ request ∈ requests ops, ExactMask request := by
  intro request hr
  obtain ⟨op, hop, rfl⟩ := List.mem_map.mp hr
  exact exactMask_request (h op hop)

end Docwright.Replay
