import Docwright.Text.Blank
import Mathlib.Data.List.TakeWhile

/-!
Texts made of given words. A woven text holds each of its words once and in order, and has nothing
else in it than gaps (`Woven`). Texts put behind each other are woven of all their words, also with
a gap between them, and one with its blanks taken off the front is woven of its words with the same
blanks taken off (`Woven.stripLeft`).
-/

namespace Docwright.Text

/-- A text that consists of words, in order, with only gaps in front of, between and behind them. -/
inductive Woven (gaps : List String) : List String → String → Prop where
  | done : Woven gaps [] ""
  | gap {words : List String} {s : String} (g : String) (known : g ∈ gaps)
      (rest : Woven gaps words s) : Woven gaps words (g ++ s)
  | word {words : List String} {s : String} (w : String) (rest : Woven gaps words s) :
      Woven gaps (w :: words) (w ++ s)

/-- Takes the blanks off the front of a text that starts with words: a blank word is emptied, and
the next one is stripped. -/
def trimLeft : List String → List String
  | [] => []
  | w :: words => if allBlank w then "" :: trimLeft words else stripLeft w :: words

namespace Woven

variable {gaps more words others : List String} {s t : String}

theorem ofWord (w : String) : Woven gaps [w] w := by
  have alone : Woven gaps [w] (w ++ "") := .word w .done
  rwa [String.append_empty] at alone

theorem ofGap {g : String} (known : g ∈ gaps) : Woven gaps [] g := by
  have alone : Woven gaps [] (g ++ "") := .gap g known .done
  rwa [String.append_empty] at alone

theorem append (first : Woven gaps words s) (second : Woven gaps others t) :
    Woven gaps (words ++ others) (s ++ t) := by
  induction first with
  | done => rwa [List.nil_append, String.empty_append]
  | gap g known _ ih =>
    rw [String.append_assoc]
    exact .gap g known ih
  | word w _ ih =>
    rw [List.cons_append, String.append_assoc]
    exact .word w ih

theorem append_gap {g : String} (h : Woven gaps words s) (known : g ∈ gaps) :
    Woven gaps words (s ++ g) := by
  simpa only [List.append_nil] using h.append (ofGap known)

theorem mono (h : Woven gaps words s) (known : ∀ g ∈ gaps, g ∈ more) : Woven more words s := by
  induction h with
  | done => exact .done
  | gap g mem _ ih => exact .gap g (known g mem) ih
  | word w _ ih => exact .word w ih

theorem mem_toList (h : Woven gaps words s) {w : String} (mem : w ∈ words) :
    ∀ c ∈ w.toList, c ∈ s.toList := by
  intro c hc
  induction h with
  | done => cases mem
  | gap g _ _ ih =>
    rw [String.toList_append]
    exact List.mem_append_right _ (ih mem)
  | word v _ ih =>
    rw [String.toList_append]
    rcases List.mem_cons.mp mem with rfl | later
    · exact List.mem_append_left _ hc
    · exact List.mem_append_right _ (ih later)

section

variable {α : Type} {wordsOf : α → List String} {textOf : α → String}

theorem join (parts : List α) (each : ∀ x ∈ parts, Woven gaps (wordsOf x) (textOf x)) :
    Woven gaps (parts.flatMap wordsOf) (String.join (parts.map textOf)) := by
  induction parts with
  | nil => exact .done
  | cons x xs ih =>
    rw [List.flatMap_cons, List.map_cons, String.join_cons]
    exact (each x List.mem_cons_self).append (ih fun y hy => each y (List.mem_cons_of_mem _ hy))

/-- An empty text is left out together with its separator; all its words are empty. -/
theorem intercalate {sep : String} (known : sep ∈ gaps) (parts : List α)
    (each : ∀ x ∈ parts, Woven gaps (wordsOf x) (textOf x)) :
    Woven gaps (parts.flatMap wordsOf)
      (String.intercalate sep ((parts.map textOf).filter (· ≠ ""))) := by
  induction parts with
  | nil => exact .done
  | cons x xs ih =>
    have first := each x List.mem_cons_self
    have rest := ih fun y hy => each y (List.mem_cons_of_mem _ hy)
    rw [List.flatMap_cons, List.map_cons]
    by_cases empty : textOf x = ""
    · rw [List.filter_cons_of_neg (by simpa using empty)]
      rw [empty] at first
      simpa only [String.empty_append] using first.append rest
    · rw [List.filter_cons_of_pos (by simpa using empty)]
      cases texts : (xs.map textOf).filter (· ≠ "") with
      | nil =>
        rw [texts] at rest
        simpa only [String.intercalate_singleton, String.intercalate_nil, String.append_empty] using
          first.append rest
      | cons y ys =>
        rw [texts] at rest
        rw [String.intercalate_cons_cons, String.append_assoc]
        exact first.append (.gap sep known rest)

end

end Woven

theorem stripLeft_append_of_blank {s : String} (blank : allBlank s) (t : String) :
    stripLeft (s ++ t) = stripLeft t := by
  rw [stripLeft, String.toList_append,
    List.dropWhile_append_of_pos fun c hc => List.all_eq_true.mp blank c hc]
  rfl

theorem stripLeft_append_of_text {s : String} (h : ¬allBlank s) (t : String) :
    stripLeft (s ++ t) = stripLeft s ++ t := by
  have kept : (s.toList.dropWhile isBlank).isEmpty = false := by
    rw [Bool.eq_false_iff, ne_eq, List.isEmpty_iff, List.dropWhile_eq_nil_iff]
    exact fun all => h (List.all_eq_true.mpr all)
  rw [stripLeft, String.toList_append, List.dropWhile_append, kept, if_neg Bool.false_ne_true,
    String.ofList_append, String.ofList_toList]
  rfl

/-- A word that is all blank goes together with the gaps around it. -/
theorem Woven.stripLeft {gaps words : List String} {s : String} (h : Woven gaps words s)
    (blank : ∀ g ∈ gaps, allBlank g) : Woven gaps (trimLeft words) (Text.stripLeft s) := by
  induction h with
  | done => exact .done
  | gap g known _ ih =>
    rw [stripLeft_append_of_blank (blank g known)]
    exact ih
  | word w rest ih =>
    by_cases empty : allBlank w
    · rw [stripLeft_append_of_blank empty, trimLeft, if_pos empty]
      simpa only [String.empty_append] using Woven.word "" ih
    · rw [stripLeft_append_of_text empty, trimLeft, if_neg empty]
      exact .word _ rest

end Docwright.Text
