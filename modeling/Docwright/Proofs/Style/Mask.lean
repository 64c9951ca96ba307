import Docwright.Style.Text

/-!
Masks name exactly the fields that are set. No field of characters or of paragraphs has a comma in
its name, so that a mask can be taken apart again (`maskNames_maskOf`), and an update with the mask
of its fields sets all of them (`masked_maskOf`).
-/

namespace Docwright.Style

/-- The names in a mask. -/
def maskNames (mask : String) : List String :=
  if mask = "" then [] else (mask.toList.splitOn ',').map String.ofList

/-- The fields that an update with a mask sets. -/
def masked (fields : List (String × Json)) (mask : String) : List (String × Json) :=
  fields.filter fun f => (maskNames mask).contains f.1

/-- Something that a mask can list. -/
def IsFieldName (name : String) : Prop :=
  name ≠ "" ∧ ',' ∉ name.toList

instance (name : String) : Decidable (IsFieldName name) :=
  inferInstanceAs (Decidable (_ ∧ _))

def textNames : List String :=
  ["bold", "italic", "underline", "strikethrough", "fontSize", "weightedFontFamily",
    "foregroundColor", "backgroundColor", "link"]

def lineNames : List String :=
  ["alignment", "indentStart", "indentEnd", "indentFirstLine", "lineSpacing", "spaceAbove",
    "spaceBelow"]

/-- The names of fields are some of these, in their order. -/
def Named (names : List String) (fields : List (String × Json)) : Prop :=
  (fields.map (·.1)).Sublist names

theorem Named.optional {α : Type} {names : List String} {rest : List (Option (String × Json))}
    (h : Named names (rest.filterMap id)) (o : Option α) (name : String) (value : α → Json) :
    Named (name :: names) ((o.map (fun a => (name, value a)) :: rest).filterMap id) := by
  cases o with
  | none => exact h.cons name
  | some a => exact h.cons_cons name

theorem TextStyle.named (s : TextStyle) : Named textNames s.fields := by
  have none : Named [] (List.filterMap id []) := List.Sublist.slnil
  exact ((((((((none.optional s.link "link" _).optional s.background "backgroundColor" _).optional
    s.foreground "foregroundColor" _).optional s.fontFamily "weightedFontFamily" _).optional
    s.fontSize "fontSize" _).optional s.strikethrough "strikethrough" _).optional
    s.underline "underline" _).optional s.italic "italic" _).optional s.bold "bold" _

theorem Named.append {xs ys : List String} {fs gs : List (String × Json)} (h : Named xs fs)
    (h' : Named ys gs) : Named (xs ++ ys) (fs ++ gs) := by
  unfold Named
  rw [List.map_append]
  exact List.Sublist.append h h'

theorem named_nil (names : List String) : Named names [] :=
  List.nil_sublist names

theorem named_singleton (name : String) (value : Json) : Named [name] [(name, value)] :=
  List.Sublist.refl [name]

theorem named_lengthField (name : String) (n : Number) : Named [name] (lengthField name n) := by
  unfold lengthField
  split
  · exact named_singleton name _
  · exact named_nil _

theorem ParagraphFormat.named (f : ParagraphFormat) : Named lineNames f.fields := by
  have firstLine : Named ["indentFirstLine"]
      (if f.indentFirstLine.isZero then [] else [("indentFirstLine", points f.indentFirstLine)]) := by
    split
    · exact named_nil _
    · exact named_singleton _ _
  have lineSpacing : Named ["lineSpacing"]
      (if Number.lt 0 f.lineSpacing then [("lineSpacing", Json.num (f.lineSpacing * 100))] else []) := by
    split
    · exact named_singleton _ _
    · exact named_nil _
  refine ((((((?alignment : Named ["alignment"] _).append (named_lengthField "indentStart" _)).append
    (named_lengthField "indentEnd" _)).append firstLine).append lineSpacing).append
    (named_lengthField "spaceAbove" _)).append (named_lengthField "spaceBelow" _)
  cases f.alignment with
  | none => exact named_nil _
  | some a => exact named_singleton _ _

theorem Named.isFieldName {names : List String} {fields : List (String × Json)}
    (h : Named names fields) (proper : ∀ name ∈ names, IsFieldName name) :
    ∀ f ∈ fields, IsFieldName f.1 :=
  fun _ hf => proper _ (List.Sublist.mem (List.mem_map_of_mem hf) h)

theorem TextStyle.isFieldName (s : TextStyle) : ∀ f ∈ s.fields, IsFieldName f.1 :=
  s.named.isFieldName (by decide)

theorem ParagraphFormat.isFieldName (f : ParagraphFormat) : ∀ g ∈ f.fields, IsFieldName g.1 :=
  f.named.isFieldName (by decide)

theorem toList_maskOf (fields : List (String × Json)) : (maskOf fields).toList =
    [','].intercalate (fields.map fun f => f.1.toList) := by
  rw [maskOf, String.toList_intercalate, List.map_map]
  rfl

variable {fields : List (String × Json)}

theorem maskOf_ne_empty (filled : fields ≠ []) (proper : ∀ f ∈ fields, IsFieldName f.1) :
    maskOf fields ≠ "" := by
  cases fields with
  | nil => exact absurd rfl filled
  | cons f rest =>
    intro empty
    have first : f.1.toList ≠ [] := by
      rw [ne_eq, String.toList_eq_nil_iff]
      exact (proper f List.mem_cons_self).1
    have chars := toList_maskOf (f :: rest)
    rw [empty, List.map_cons] at chars
    cases rest with
    | nil => exact first (by simpa using chars.symm)
    | cons g rest =>
      rw [List.map_cons, List.intercalate_cons_cons] at chars
      simp at chars

theorem maskNames_maskOf (proper : ∀ f ∈ fields, IsFieldName f.1) :
    maskNames (maskOf fields) = fields.map (·.1) := by
  by_cases filled : fields = []
  · subst filled
    rfl
  · have commaless : ∀ name ∈ fields.map fun f => f.1.toList, ',' ∉ name := by
      intro name hname
      obtain ⟨f, hf, rfl⟩ := List.mem_map.mp hname
      exact (proper f hf).2
    rw [maskNames, if_neg (maskOf_ne_empty filled proper), toList_maskOf,
      List.splitOn_intercalate ',' commaless (by simpa using filled), List.map_map]
    simp

/-- An update with the mask of its fields leaves none of them out. -/
theorem masked_maskOf (proper : ∀ f ∈ fields, IsFieldName f.1) :
    masked fields (maskOf fields) = fields := by
  rw [masked, maskNames_maskOf proper, List.filter_eq_self]
  intro f hf
  simpa using ⟨_, hf⟩

end Docwright.Style
